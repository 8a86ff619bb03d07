import Sdrgg.Ring.Lossless
import Sdrgg.Rtl.Registers
import Sdrgg.Usb.ErrorCount

/-! The reader thread of a tuner that is read synchronously, from the endpoint of the device to the
callbacks: until it is asked to stop or its device is gone, it reads at most 16384 bytes at a time with
`bulk_read` and hands them to `ring_write`. -/

namespace Sdrgg.Ring

open ProofKit Usb Rtl

/-- A device with the memory of its reader thread, its ring, the flag `cancel_requested`, and the chunks
that the thread has written to the ring, oldest first. -/
structure ReaderWorld where
  usb : StreamWorld
  ring : IqRing UInt8
  cancelRequested : Bool
  written : List (List UInt8)

abbrev ReaderM := Act StreamEnv ReaderWorld SdrggError

def onStream {α : Type} (m : StreamM α) : ReaderM α := fun env s =>
  ((m env s.usb).1, { s with usb := (m env s.usb).2 })

/-- `ring_write` of the first `actual` bytes of the thread's buffer. -/
def writeRing (actual : UInt32) : ReaderM Unit := Act.modify fun s =>
  let data := memread s.usb.buf 0 actual.toNat
  { s with ring := ringWrite s.ring data, written := s.written ++ [data] }

/-- What the other threads do during an iteration: to the device, and to `cancel_requested`. -/
structure Others where
  world : World → World
  cancel : Bool → Bool

/-- The other threads ask the reader to stop, and none takes that back. -/
def Others.Cancel (o : Others) : Prop := ∀ b, o.cancel b = true

def ReaderWorld.among (s : ReaderWorld) (o : Others) : ReaderWorld :=
  { s with
    usb := { s.usb with world := o.world s.usb.world }
    cancelRequested := o.cancel s.cancelRequested }

def meanwhile (o : Others) : ReaderM Unit := Act.modify fun s => s.among o

/-- The loop of the thread from iteration `i` on, for at most `fuel` iterations: whether the thread has
left it by then. -/
def readerLoop (others : Nat → Others) (i : Nat) : Nat → ReaderM Bool
  | 0 => pure false
  | fuel + 1 => do
    if (← Act.get).cancelRequested then pure true
    else
      let (rc, actual) ← onStream (bulkRead 16384 1000)
      meanwhile (others i)
      match rc with
      | .ok _ =>
        if actual > 0 then writeRing actual
        readerLoop others (i + 1) fuel
      | .error _ =>
        if (← Act.get).usb.world.dev.health = .disconnected then pure true
        else readerLoop others (i + 1) fuel

/-- `reader_thread_fn` of a tuner that is read synchronously, whose `malloc` succeeds or not, up to
`fuel` iterations of its loop: whether it has returned by then. -/
def readerThread (allocated : Bool) (others : Nat → Others) (fuel : Nat) : ReaderM Bool :=
  if allocated then do
    onStream (onDevice (Act.ignore startBulk))
    readerLoop others 0 fuel
  else pure true

/-! ### One read -/

section Loop

variable {env : StreamEnv} {s t u : ReaderWorld} {es fs : BulkLog} {chunks more : List (List UInt8)}

/-- The thread's buffer begins with what has been read. -/
theorem memread_bulkRun {x y : StreamWorld} {len actual : UInt32} {rc : Except SdrggError Unit}
    (h : BulkRun env x y len 0 rc actual es) : memread y.buf 0 actual.toNat = bytesRead es := by
  have hbuf : y.buf = store x.buf 0 (bytesRead es) := h.buf.trans (h.fragments.stored_eq x.buf)
  have hactual : actual.toNat = (bytesRead es).length := by
    rw [h.actual, UInt32.toNat_zero, Nat.zero_add]
    rfl
  refine List.ext_getElem (by simp [memread, hactual]) fun i hi hi' => ?_
  simp only [memread, List.getElem_map, List.getElem_range, hbuf]
  exact store_add x.buf 0 hi'

/-- A read that fails has received nothing. -/
theorem bytesRead_failed {x y : StreamWorld} {len actual : UInt32}
    (h : BulkRun env x y len 0 (.error .io) actual es) : bytesRead es = [] := by
  obtain ⟨-, -, e, errno, rfl⟩ | ⟨hok, -⟩ := h.rc
  · rfl
  · cases hok

theorem bytesRead_append (es fs : BulkLog) : bytesRead (es ++ fs) = bytesRead es ++ bytesRead fs := by
  simp [bytesRead, gathered]

/-- The answers to the transfers of one read and to those after it. -/
theorem answers_append {log : BulkLog}
    (hes : ∀ pre e post, es = pre ++ e :: post → env.bulk (pre.reverse ++ log) e.1 = e.2)
    (hfs : ∀ pre e post, fs = pre ++ e :: post →
      env.bulk (pre.reverse ++ (es.reverse ++ log)) e.1 = e.2) :
    ∀ pre e post, es ++ fs = pre ++ e :: post → env.bulk (pre.reverse ++ log) e.1 = e.2 := by
  intro pre e post hsplit
  obtain ⟨mid, rfl, htail⟩ | ⟨mid, hmid, htail⟩ := List.append_eq_append_iff.mp hsplit
  · rw [List.reverse_append, List.append_assoc]
    exact hfs mid e post htail
  · obtain ⟨rfl, hfirst⟩ | ⟨rest, rfl, -⟩ := List.cons_eq_append_iff.mp htail
    · rw [List.append_nil] at hmid
      exact hmid ▸ hfs [] e post hfirst
    · exact hes pre e rest hmid

/-- From `s` to `t` the thread has made the bulk transfers `es`, the first one first, and written what
they received in `chunks`. -/
structure Wrote (env : StreamEnv) (s t : ReaderWorld) (es : BulkLog) (chunks : List (List UInt8)) :
    Prop where
  made : t.usb.bulkLog = es.reverse ++ s.usb.bulkLog
  answered : ∀ pre e post, es = pre ++ e :: post →
    env.bulk (pre.reverse ++ s.usb.bulkLog) e.1 = e.2
  bytes : chunks.flatten = bytesRead es
  fits : ∀ chunk ∈ chunks, chunk ≠ [] ∧ chunk.length ≤ 16384
  written : t.written = s.written ++ chunks
  ring : t.ring = chunks.foldl ringWrite s.ring

theorem Wrote.refl (env : StreamEnv) (s : ReaderWorld) : Wrote env s s [] [] :=
  ⟨rfl, by simp, rfl, by simp, by simp, rfl⟩

theorem Wrote.trans (h1 : Wrote env s u es chunks) (h2 : Wrote env u t fs more) :
    Wrote env s t (es ++ fs) (chunks ++ more) where
  made := by rw [h2.made, h1.made, List.reverse_append, List.append_assoc]
  answered := answers_append h1.answered (h1.made ▸ h2.answered)
  bytes := by rw [List.flatten_append, h1.bytes, h2.bytes, bytesRead_append]
  fits chunk hchunk := (List.mem_append.mp hchunk).elim (h1.fits chunk) (h2.fits chunk)
  written := by rw [h2.written, h1.written, List.append_assoc]
  ring := by rw [h2.ring, h1.ring, List.foldl_append]

/-- A read that has received nothing. -/
theorem Wrote.nothing {x : StreamWorld} {actual : UInt32} {rc : Except SdrggError Unit}
    (h : BulkRun env s.usb x 16384 0 rc actual es) (hbytes : bytesRead es = []) (o : Others) :
    Wrote env s (ReaderWorld.among { s with usb := x } o) es [] :=
  ⟨h.log, h.answers, hbytes.symm, by simp, by simp [ReaderWorld.among], rfl⟩

/-- A read whose bytes go to the ring. -/
theorem Wrote.chunk {x : StreamWorld} {actual : UInt32} {rc : Except SdrggError Unit}
    (h : BulkRun env s.usb x 16384 0 rc actual es) (hbytes : bytesRead es ≠ []) (o : Others) :
    Wrote env s
      { ReaderWorld.among { s with usb := x } o with
        ring := ringWrite s.ring (bytesRead es)
        written := s.written ++ [bytesRead es] } es [bytesRead es] where
  made := h.log
  answered := h.answers
  bytes := List.flatten_singleton
  fits chunk hchunk := by
    obtain rfl := List.mem_singleton.mp hchunk
    have hle := h.fragments.length_le
    rw [UInt32.toNat_zero, Nat.zero_add] at hle
    exact ⟨hbytes, hle⟩
  written := rfl
  ring := rfl

/-- One iteration, after which the thread goes on or finds its device gone. -/
theorem readerLoop_iteration (others : Nat → Others) (i fuel : Nat)
    (hgoes : s.cancelRequested = false) : ∃ u es chunks, Wrote env s u es chunks ∧
    u.cancelRequested = (others i).cancel s.cancelRequested ∧
    (readerLoop others i (fuel + 1) env s = readerLoop others (i + 1) fuel env u ∨
      readerLoop others i (fuel + 1) env s = (.ok true, u) ∧
        u.usb.world.dev.health = .disconnected) := by
  obtain ⟨rc, actual, x, es, hread, h⟩ :=
    @bulkLoop_run env s.usb 16384 1000 0 (UInt32.le_iff_toNat_le.mpr (Nat.zero_le _))
  have hlength : (bytesRead es).length = actual.toNat := by
    rw [h.actual, UInt32.toNat_zero, Nat.zero_add]
    rfl
  have hstream : onStream (bulkRead 16384 1000) env s = (.ok (rc, actual), { s with usb := x }) := by
    rw [onStream, bulkRead, hread]
  have hothers : meanwhile (others i) env { s with usb := x } =
      (.ok (), ReaderWorld.among { s with usb := x } (others i)) := rfl
  rw [readerLoop, Act.bind_of_ok (Act.get_apply _ _), if_neg (by simp [hgoes]),
    Act.bind_of_ok hstream]
  dsimp only
  rw [Act.bind_of_ok hothers]
  cases rc with
  | ok _ =>
    by_cases hsome : actual > 0
    · have hne : bytesRead es ≠ [] := by
        rw [← List.length_pos_iff, hlength]
        exact UInt32.lt_iff_toNat_lt.mp hsome
      have hwrite : writeRing actual env (ReaderWorld.among { s with usb := x } (others i)) =
          (.ok (), { ReaderWorld.among { s with usb := x } (others i) with
            ring := ringWrite s.ring (bytesRead es)
            written := s.written ++ [bytesRead es] }) := by
        rw [← memread_bulkRun h]
        rfl
      refine ⟨_, es, [bytesRead es], Wrote.chunk h hne (others i), rfl, .inl ?_⟩
      dsimp only
      rw [if_pos hsome, Act.bind_of_ok hwrite]
    · have hnone : bytesRead es = [] := by
        rw [← List.length_eq_zero_iff, hlength]
        rw [gt_iff_lt, UInt32.lt_iff_toNat_lt] at hsome
        exact Nat.eq_zero_of_not_pos hsome
      refine ⟨_, es, [], Wrote.nothing h hnone (others i), rfl, .inl ?_⟩
      dsimp only
      rw [if_neg hsome]
  | error e =>
    obtain rfl : e = .io := by
      obtain ⟨hrc, -⟩ | ⟨hrc, -⟩ := h.rc
      · exact Except.error.inj hrc
      · cases hrc
    refine ⟨_, es, [], Wrote.nothing h (bytesRead_failed h) (others i), rfl, ?_⟩
    dsimp only
    rw [Act.bind_of_ok (Act.get_apply _ _)]
    by_cases hgone : (ReaderWorld.among { s with usb := x } (others i)).usb.world.dev.health =
        .disconnected
    · rw [if_pos hgone]
      exact .inr ⟨rfl, hgone⟩
    · rw [if_neg hgone]
      exact .inl rfl

/-- However many iterations the thread has made, it has written what it has read; it has left the loop
only at the request to cancel or without its device. -/
theorem readerLoop_wrote (others : Nat → Others) (i fuel : Nat) : ∃ ended t es chunks,
    readerLoop others i fuel env s = (.ok ended, t) ∧ Wrote env s t es chunks ∧
    (ended = true → t.cancelRequested = true ∨ t.usb.world.dev.health = .disconnected) := by
  induction fuel generalizing s i with
  | zero => exact ⟨false, s, [], [], rfl, .refl env s, fun h => by cases h⟩
  | succ fuel ih =>
    cases hcancel : s.cancelRequested with
    | true =>
      refine ⟨true, s, [], [], ?_, .refl env s, fun _ => .inl hcancel⟩
      rw [readerLoop, Act.bind_of_ok (Act.get_apply _ _), if_pos hcancel]
      rfl
    | false =>
      obtain ⟨u, es, chunks, hwrote, -, hnext | ⟨hlast, hgone⟩⟩ :=
        readerLoop_iteration others i fuel hcancel
      · obtain ⟨ended, t, fs, more, hrun, hrest, hwhy⟩ := @ih u (i + 1)
        exact ⟨ended, t, es ++ fs, chunks ++ more, hnext.trans hrun, hwrote.trans hrest, hwhy⟩
      · exact ⟨true, u, es, chunks, hlast, hwrote, fun _ => .inr hgone⟩

/-- The thread leaves the loop at the first test after a request to cancel, if not before. -/
theorem readerLoop_ends (others : Nat → Others) {i fuel k : Nat} (hk : i ≤ k) (hfuel : k + 1 < i + fuel)
    (hcancel : (others k).Cancel) : ∃ t, readerLoop others i fuel env s = (.ok true, t) := by
  induction fuel generalizing s i with
  | zero => omega
  | succ fuel ih =>
    cases hflag : s.cancelRequested with
    | true =>
      refine ⟨s, ?_⟩
      rw [readerLoop, Act.bind_of_ok (Act.get_apply _ _), if_pos hflag]
      rfl
    | false =>
      obtain ⟨u, -, -, -, hafter, hnext | ⟨hlast, -⟩⟩ := readerLoop_iteration others i fuel hflag
      · rw [hnext]
        obtain rfl | hlater := Nat.eq_or_lt_of_le hk
        · obtain ⟨fuel, rfl⟩ := Nat.exists_eq_add_of_lt (show 0 < fuel by omega)
          refine ⟨u, ?_⟩
          rw [hcancel] at hafter
          rw [Nat.zero_add, readerLoop, Act.bind_of_ok (Act.get_apply _ _), if_pos hafter]
          rfl
        · exact ih hlater (by omega)
      · exact ⟨u, hlast⟩

theorem startBulk_returns (x : StreamWorld) : ∃ w,
    onDevice (Act.ignore startBulk) env x = (.ok (), { x with world := w }) := by
  have hdefined : Defined (Act.ignore startBulk) := by grind [startBulk]
  rcases hrun : Act.ignore startBulk env.control x.world with ⟨(e | _) | _, w⟩
  · exact absurd hrun Act.ignore_ne_error
  · exact absurd (congrArg Prod.fst hrun) (hdefined env.control x.world)
  · exact ⟨w, by rw [onDevice, hrun]⟩

theorem readerThread_allocated (others : Nat → Others) (fuel : Nat) : ∃ w,
    readerThread true others fuel env s =
      readerLoop others 0 fuel env { s with usb := { s.usb with world := w } } := by
  obtain ⟨w, hw⟩ := @startBulk_returns env s.usb
  have hstart : onStream (onDevice (Act.ignore startBulk)) env s =
      (.ok (), { s with usb := { s.usb with world := w } }) := by
    rw [onStream, hw]
  exact ⟨w, by rw [readerThread, if_pos rfl, Act.bind_of_ok hstart]⟩

theorem readerThread_wrote (allocated : Bool) (others : Nat → Others) (fuel : Nat) :
    ∃ ended t es chunks,
      readerThread allocated others fuel env s = (.ok ended, t) ∧ Wrote env s t es chunks ∧
      (ended = true → allocated = false ∨ t.cancelRequested = true ∨
        t.usb.world.dev.health = .disconnected) := by
  cases allocated
  · exact ⟨true, s, [], [], rfl, .refl env s, fun _ => .inl rfl⟩
  · obtain ⟨w, hw⟩ := @readerThread_allocated env s others fuel
    obtain ⟨ended, t, es, chunks, hrun, h, hwhy⟩ :=
      @readerLoop_wrote env { s with usb := { s.usb with world := w } } others 0 fuel
    exact ⟨ended, t, es, chunks, hw.trans hrun,
      ⟨h.made, h.answered, h.bytes, h.fits, h.written, h.ring⟩, fun he => .inr (hwhy he)⟩

/-- The thread has returned when it has made one test more after a request to cancel. -/
theorem readerThread_returns (allocated : Bool) (others : Nat → Others) {fuel k : Nat}
    (hfuel : k + 1 < fuel) (hcancel : (others k).Cancel) :
    ∃ t, readerThread allocated others fuel env s = (.ok true, t) := by
  cases allocated
  · exact ⟨s, rfl⟩
  · obtain ⟨w, hw⟩ := @readerThread_allocated env s others fuel
    obtain ⟨t, ht⟩ := @readerLoop_ends env { s with usb := { s.usb with world := w } } others 0 fuel k
      (Nat.zero_le k) (by omega) hcancel
    exact ⟨t, hw.trans ht⟩

end Loop

/-- The thread of a stream that has been started, whose ring is new. -/
def readerStart (usb : StreamWorld) (cancelRequested : Bool) : ReaderWorld :=
  ⟨usb, ringInit 128, cancelRequested, []⟩

theorem bulkRead_full {env : StreamEnv} {data : List UInt8}
    (hbulk : ∀ log t, env.bulk log t = .done data) (hlen : data.length = 16384) (x : StreamWorld) :
    bulkRead 16384 1000 env x =
      (.ok (.ok (), 16384), x.transferred (⟨0, 16384, 1000⟩, .done data)) := by
  have hchunk : chunkSize 16384 0 = 16384 := by decide
  have htake : data.take (16384 : UInt32).toNat = data := List.take_of_length_le hlen.le
  have hrc : UInt32.ofNat data.length = 16384 := by rw [hlen]; rfl
  rw [bulkRead, bulkLoop, dif_pos (by decide), Act.bind_apply, bulkIoctl_apply, hbulk]
  dsimp only
  rw [hchunk, htake, hrc, dif_neg (by decide), bulkLoop, dif_neg (by decide)]
  rfl

/-- A kernel that answers every bulk transfer with a segment of ones, and no control transfer. -/
def segmentEnv : StreamEnv :=
  ⟨⟨fun _ _ => .fail .other, fun _ _ => 0⟩, fun _ _ => .done (List.replicate 16384 1)⟩

def idleUsb : StreamWorld := ⟨⟨bareDevice, [], none, 0⟩, fun _ => 0, []⟩

/-- The other threads ask the reader to stop during every iteration. -/
def stopping : Nat → Others := fun _ => ⟨id, fun _ => true⟩

/-- One iteration of the reader, and its end. -/
theorem readerThread_segment : ∃ t,
    readerThread true stopping 2 segmentEnv (readerStart idleUsb false) = (.ok true, t) ∧
    t.written = [List.replicate 16384 1] ∧
    t.usb.bulkLog = [(⟨0, 16384, 1000⟩, .done (List.replicate 16384 1))] := by
  generalize hdata : List.replicate 16384 (1 : UInt8) = data
  have hlen : data.length = 16384 := by rw [← hdata, List.length_replicate]
  have hbulk : ∀ log t, segmentEnv.bulk log t = .done data := fun _ _ => by rw [← hdata]; rfl
  obtain ⟨w, hw⟩ := @readerThread_allocated segmentEnv (readerStart idleUsb false) stopping 2
  let x := StreamWorld.transferred { idleUsb with world := w } (⟨0, 16384, 1000⟩, .done data)
  have hread : onStream (bulkRead 16384 1000) segmentEnv
      (readerStart { idleUsb with world := w } false) =
        (.ok (.ok (), 16384), readerStart x false) := by
    simp only [onStream, readerStart, bulkRead_full hbulk hlen, x]
  have hbytes : memread x.buf 0 (16384 : UInt32).toNat = data := by
    refine List.ext_getElem (by simp [memread, hlen]) fun i hi hi' => ?_
    have htake : data.take (16384 : UInt32).toNat = data := List.take_of_length_le hlen.le
    simp only [memread, List.getElem_map, List.getElem_range, x, StreamWorld.transferred,
      BulkTransfer.received, htake, Option.getD_some]
    exact store_add _ 0 hi'
  have hflag : (readerStart { idleUsb with world := w } false).cancelRequested = false := rfl
  refine ⟨⟨x, ringWrite (ringInit 128) data, true, [data]⟩, ?_, rfl, rfl⟩
  rw [hw]
  change readerLoop stopping 0 2 segmentEnv (readerStart { idleUsb with world := w } false) = _
  rw [readerLoop, Act.bind_of_ok (Act.get_apply _ _), if_neg (by simp [hflag]), Act.bind_of_ok hread,
    ← hbytes]
  rfl

end Sdrgg.Ring
