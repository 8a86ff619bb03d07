import Sdrgg.ProofKit.Fragment
import Sdrgg.Usb.Disconnect

/-! `usb::bulk_read`.  The kernel answers each bulk transfer with an error or
with at most the bytes that it asks for, and stores these in the caller's buffer. -/

namespace Sdrgg.Usb

open ProofKit

/-- `usbdevfs_bulktransfer`, with its buffer as an offset into that of the caller. -/
structure BulkTransfer where
  offset : UInt32
  len : UInt32
  timeoutMs : UInt32
deriving DecidableEq, Repr

/-- What the kernel stores of its answer. -/
def BulkTransfer.received (t : BulkTransfer) : Response → Option (List UInt8)
  | .done data => some (data.take t.len.toNat)
  | .fail _ => none

abbrev BulkLog := List (BulkTransfer × Response)

/-- The kernel with the control pipe and the bulk endpoint of a device. -/
structure StreamEnv where
  control : Env
  bulk : BulkLog → BulkTransfer → Response

/-- An open device, the memory from the caller's buffer on and the bulk transfers made so far, the
last one first. -/
structure StreamWorld where
  world : World
  buf : Nat → UInt8
  bulkLog : BulkLog

abbrev StreamM := Act StreamEnv StreamWorld SdrggError

/-- An operation that uses the control pipe only. -/
def onDevice {α : Type} (m : DevM α) : StreamM α := fun env s =>
  ((m env.control s.world).1, { s with world := (m env.control s.world).2 })

/-- One `USBDEVFS_BULK`. -/
def bulkIoctl (t : BulkTransfer) : StreamM Response := fun env s =>
  (.ok (env.bulk s.bulkLog t),
    { s with
      buf := store s.buf t.offset.toNat ((t.received (env.bulk s.bulkLog t)).getD [])
      bulkLog := (t, env.bulk s.bulkLog t) :: s.bulkLog })

theorem chunkSize_toNat {len total : UInt32} (h : total ≤ len) :
    (chunkSize len total).toNat = min maxChunk.toNat (len.toNat - total.toNat) := by
  have hmissing : (len - total).toNat = len.toNat - total.toNat := UInt32.toNat_sub_of_le _ _ h
  unfold chunkSize
  split
  · rename_i hmore
    rw [gt_iff_lt, UInt32.lt_iff_toNat_lt] at hmore
    omega
  · rename_i hfits
    rw [gt_iff_lt, UInt32.lt_iff_toNat_lt] at hfits
    omega

/-- A transfer that is not short leaves less to read. -/
theorem toNat_add_chunk {len total rc : UInt32} (h : total < len)
    (hrc : rc.toNat = (chunkSize len total).toNat) :
    (total + rc).toNat = total.toNat + rc.toNat ∧ 0 < rc.toNat ∧ total + rc ≤ len := by
  have hmax : maxChunk.toNat = 16384 := rfl
  have hlt := UInt32.lt_iff_toNat_lt.mp h
  have hchunk := chunkSize_toNat (UInt32.le_of_lt h)
  have hlen := len.toNat_lt
  have hsum : (total + rc).toNat = total.toNat + rc.toNat := by
    rw [UInt32.toNat_add]
    omega
  refine ⟨hsum, by omega, ?_⟩
  rw [UInt32.le_iff_toNat_le, hsum]
  omega

theorem toNat_received (data : List UInt8) (chunk : UInt32) :
    (UInt32.ofNat (data.take chunk.toNat).length).toNat = (data.take chunk.toNat).length := by
  have hlt := chunk.toNat_lt
  rw [UInt32.toNat_ofNat', List.length_take]
  omega

/-- The loop of `bulk_read` from `total` bytes on, with what it returns and leaves in `actual`. -/
def bulkLoop (len timeoutMs total : UInt32) : StreamM (Except SdrggError Unit × UInt32) :=
  if _more : total < len then do
    let resp ← bulkIoctl ⟨total, chunkSize len total, timeoutMs⟩
    match resp with
    | .fail errno =>
      onDevice (noteResponse (.fail errno))
      if total > 0 then pure (.ok (), total) else pure (.error .io, 0)
    | .done data =>
      let rc := UInt32.ofNat (data.take (chunkSize len total).toNat).length
      if _short : rc < chunkSize len total then pure (.ok (), total + rc)
      else bulkLoop len timeoutMs (total + rc)
  else pure (.ok (), total)
termination_by len.toNat - total.toNat
decreasing_by
  have hfull : (UInt32.ofNat (data.take (chunkSize len total).toNat).length).toNat =
      (chunkSize len total).toNat := by
    have hge := UInt32.le_iff_toNat_le.mp (UInt32.not_lt.mp _short)
    have hle := List.length_take_le (chunkSize len total).toNat data
    rw [toNat_received] at hge ⊢
    omega
  obtain ⟨hsum, hpos, -⟩ := toNat_add_chunk _more hfull
  have := UInt32.lt_iff_toNat_lt.mp _more
  omega

/-- `usb::bulk_read`. -/
def bulkRead (len timeoutMs : UInt32) : StreamM (Except SdrggError Unit × UInt32) :=
  bulkLoop len timeoutMs 0

/-- A transfer of a read and what it has received. -/
def fragment (e : BulkTransfer × Response) : Fragment UInt8 :=
  ⟨e.1.offset.toNat, e.1.len.toNat, e.1.received e.2⟩

/-- The bookkeeping of `bulk_read`, which a transfer that succeeds leaves alone. -/
def Device.notedBulk (d : Device) : Response → Device
  | .done _ => d
  | .fail errno => d.noted (.fail errno)

/-- What a loop of `bulk_read` that began in `s` with `total` bytes has made of the transfers `es`,
the first one first. -/
structure BulkRun (env : StreamEnv) (s t : StreamWorld) (len total : UInt32)
    (rc : Except SdrggError Unit) (actual : UInt32) (es : BulkLog) : Prop where
  fragments : FragmentedRead maxChunk.toNat len.toNat total.toNat (es.map fragment)
  log : t.bulkLog = es.reverse ++ s.bulkLog
  answers : ∀ pre e post, es = pre ++ e :: post → env.bulk (pre.reverse ++ s.bulkLog) e.1 = e.2
  buf : t.buf = stored s.buf (es.map fragment)
  dev : t.world.dev = es.foldl (fun d e => d.notedBulk e.2) s.world.dev
  control : t.world.log = s.world.log
  actual : actual.toNat = total.toNat + (gathered (es.map fragment)).length
  rc : rc = .error .io ∧ total = 0 ∧ (∃ e errno, es = [(e, .fail errno)]) ∨
    rc = .ok () ∧ (total = 0 → ∀ e errno, es.head? ≠ some (e, .fail errno))

section Runs

variable {env : StreamEnv} {s t : StreamWorld} {len timeoutMs total : UInt32}

theorem onDevice_noteResponse (resp : Response) :
    onDevice (noteResponse resp) env s =
      (.ok (), { s with world := (noteResponse resp env.control s.world).2 }) := rfl

/-- The bytes of a transfer, as `rc` counts them. -/
theorem fragment_done (data : List UInt8) (h : total ≤ len) :
    fragment (⟨total, chunkSize len total, timeoutMs⟩, .done data) =
      ⟨total.toNat, min maxChunk.toNat (len.toNat - total.toNat),
        some (data.take (chunkSize len total).toNat)⟩ := by
  simp [fragment, BulkTransfer.received, chunkSize_toNat h]

theorem fragment_fail (errno : Errno) (h : total ≤ len) :
    fragment (⟨total, chunkSize len total, timeoutMs⟩, .fail errno) =
      ⟨total.toNat, min maxChunk.toNat (len.toNat - total.toNat), none⟩ := by
  simp [fragment, BulkTransfer.received, chunkSize_toNat h]

/-- The answers to one transfer and to those after it. -/
theorem answers_cons {log : BulkLog} {e : BulkTransfer × Response} {es : BulkLog}
    (hfirst : env.bulk log e.1 = e.2)
    (hrest : ∀ pre f post, es = pre ++ f :: post →
      env.bulk (pre.reverse ++ (e :: log)) f.1 = f.2) :
    ∀ pre f post, e :: es = pre ++ f :: post → env.bulk (pre.reverse ++ log) f.1 = f.2 := by
  intro pre f post hsplit
  obtain ⟨rfl, htail⟩ | ⟨pre', rfl, htail⟩ := List.cons_eq_append_iff.mp hsplit
  · obtain ⟨rfl, -⟩ := List.cons.inj htail
    exact hfirst
  · rw [List.reverse_cons, List.append_assoc]
    exact hrest pre' f post htail

/-- The world after a transfer. -/
def StreamWorld.transferred (s : StreamWorld) (e : BulkTransfer × Response) : StreamWorld :=
  { s with
    buf := store s.buf e.1.offset.toNat ((e.1.received e.2).getD [])
    bulkLog := e :: s.bulkLog }

theorem bulkIoctl_apply (t : BulkTransfer) :
    bulkIoctl t env s = (.ok (env.bulk s.bulkLog t), s.transferred (t, env.bulk s.bulkLog t)) := rfl

/-- A transfer that falls short ends the loop. -/
theorem BulkRun.short {data : List UInt8} (hmore : total < len)
    (hresp : env.bulk s.bulkLog ⟨total, chunkSize len total, timeoutMs⟩ = .done data)
    (hshort : UInt32.ofNat (data.take (chunkSize len total).toNat).length < chunkSize len total) :
    BulkRun env s (s.transferred (⟨total, chunkSize len total, timeoutMs⟩, .done data)) len total
      (.ok ()) (total + UInt32.ofNat (data.take (chunkSize len total).toNat).length)
      [(⟨total, chunkSize len total, timeoutMs⟩, .done data)] := by
  have htotal := UInt32.le_of_lt hmore
  have hlt := UInt32.lt_iff_toNat_lt.mp hmore
  have hcount := toNat_received data (chunkSize len total)
  have hchunk := chunkSize_toNat htotal
  have hlen := len.toNat_lt
  rw [UInt32.lt_iff_toNat_lt, hcount] at hshort
  refine ⟨?_, rfl, answers_cons hresp (by simp), rfl, rfl, rfl, ?_, .inr ⟨rfl, by simp⟩⟩
  · rw [List.map_singleton, fragment_done data htotal]
    exact .short hlt (hchunk ▸ hshort)
  · rw [List.map_singleton, fragment_done data htotal, UInt32.toNat_add, hcount]
    simp only [gathered_cons, gathered_nil, Fragment.items, Option.getD_some, List.append_nil]
    omega

/-- A transfer that fails ends the loop. -/
theorem BulkRun.failed {errno : Errno} (hmore : total < len)
    (hresp : env.bulk s.bulkLog ⟨total, chunkSize len total, timeoutMs⟩ = .fail errno)
    {w : World} (hdev : w.dev = s.world.dev.noted (.fail errno)) (hlog : w.log = s.world.log) :
    BulkRun env s
      { s.transferred (⟨total, chunkSize len total, timeoutMs⟩, .fail errno) with world := w } len
      total (if total > 0 then .ok () else .error .io) (if total > 0 then total else 0)
      [(⟨total, chunkSize len total, timeoutMs⟩, .fail errno)] := by
  have htotal := UInt32.le_of_lt hmore
  have hlt := UInt32.lt_iff_toNat_lt.mp hmore
  have hzero : ¬total > 0 ↔ total = 0 := by
    rw [gt_iff_lt, UInt32.lt_iff_toNat_lt, ← UInt32.toNat_inj]
    simp
  refine ⟨?_, rfl, answers_cons hresp (by simp), rfl, hdev, hlog, ?_, ?_⟩
  · rw [List.map_singleton, fragment_fail errno htotal]
    exact .failed hlt
  · rw [List.map_singleton, fragment_fail errno htotal]
    split
    · rfl
    · rename_i hnone
      rw [hzero.mp hnone]
      rfl
  · split
    · rename_i hsome
      exact .inr ⟨rfl, fun h => absurd hsome (hzero.mpr h)⟩
    · rename_i hnone
      exact .inl ⟨rfl, hzero.mp hnone, _, _, rfl⟩

/-- A transfer that is full goes before those of the rest of the loop. -/
theorem BulkRun.next {data : List UInt8} {rc : Except SdrggError Unit} {actual : UInt32}
    {es : BulkLog} (hmore : total < len)
    (hresp : env.bulk s.bulkLog ⟨total, chunkSize len total, timeoutMs⟩ = .done data)
    (hfull : (data.take (chunkSize len total).toNat).length = (chunkSize len total).toNat)
    (hrest : BulkRun env (s.transferred (⟨total, chunkSize len total, timeoutMs⟩, .done data)) t len
      (total + UInt32.ofNat (data.take (chunkSize len total).toNat).length) rc actual es) :
    BulkRun env s t len total rc actual
      ((⟨total, chunkSize len total, timeoutMs⟩, .done data) :: es) := by
  have htotal := UInt32.le_of_lt hmore
  have hlt := UInt32.lt_iff_toNat_lt.mp hmore
  have hchunk := chunkSize_toNat htotal
  obtain ⟨hsum, hpos, -⟩ := toNat_add_chunk hmore ((toNat_received data _).trans hfull)
  rw [toNat_received] at hsum hpos
  have hfragments := hrest.fragments
  rw [hsum] at hfragments
  refine ⟨?_, ?_, answers_cons hresp hrest.answers, ?_, hrest.dev, hrest.control, ?_, ?_⟩
  · rw [List.map_cons, fragment_done data htotal]
    exact .next hlt (hfull.trans hchunk) hfragments
  · rw [hrest.log, List.reverse_cons, List.append_assoc]
    rfl
  · rw [hrest.buf]
    rfl
  · rw [hrest.actual, hsum, List.map_cons, fragment_done data htotal]
    simp only [gathered_cons, Fragment.items, Option.getD_some, List.length_append, Nat.add_assoc]
  · have hsome : total + UInt32.ofNat (data.take (chunkSize len total).toNat).length ≠ 0 := by
      rw [ne_eq, ← UInt32.toNat_inj, hsum, UInt32.toNat_zero]
      omega
    obtain ⟨-, hzero, -⟩ | ⟨hok, -⟩ := hrest.rc
    · exact absurd hzero hsome
    · exact .inr ⟨hok, by simp⟩

/-- The loop returns, whatever the kernel answers. -/
theorem bulkLoop_run (htotal : total ≤ len) : ∃ rc actual t es,
    bulkLoop len timeoutMs total env s = (.ok (rc, actual), t) ∧
      BulkRun env s t len total rc actual es := by
  induction hmissing : len.toNat - total.toNat using Nat.strong_induction_on generalizing total s with
  | _ missing ih =>
    rw [bulkLoop]
    by_cases hmore : total < len
    swap
    · have heq : total = len := UInt32.le_antisymm htotal (UInt32.not_lt.mp hmore)
      rw [dif_neg hmore]
      refine ⟨_, _, _, [], rfl, ?_, rfl, by simp, rfl, rfl, rfl, rfl, .inr ⟨rfl, by simp⟩⟩
      rw [heq]
      exact .done
    rw [dif_pos hmore, Act.bind_apply, bulkIoctl_apply]
    rcases hresp : env.bulk s.bulkLog ⟨total, chunkSize len total, timeoutMs⟩ with data | errno
    · dsimp only
      have hcount := toNat_received data (chunkSize len total)
      split
      · rename_i hshort
        exact ⟨_, _, _, _, rfl, BulkRun.short hmore hresp hshort⟩
      · rename_i hlong
        have hfull : (data.take (chunkSize len total).toNat).length =
            (chunkSize len total).toNat := by
          have hge := UInt32.le_iff_toNat_le.mp (UInt32.not_lt.mp hlong)
          rw [hcount] at hge
          exact Nat.le_antisymm (List.length_take_le _ _) hge
        obtain ⟨hsum, hpos, hle⟩ := toNat_add_chunk hmore (hcount.trans hfull)
        have hlt := UInt32.lt_iff_toNat_lt.mp hmore
        obtain ⟨rc, actual, t, es, hrun, hspec⟩ := ih _ (by omega) hle rfl
        exact ⟨rc, actual, t, _, hrun, BulkRun.next hmore hresp hfull hspec⟩
    · dsimp only
      rw [Act.bind_of_ok (onDevice_noteResponse _)]
      refine ⟨_, _, _, _, ?_, BulkRun.failed hmore hresp
        (w := (noteResponse (.fail errno) env.control s.world).2) rfl rfl⟩
      split <;> rfl

theorem done_of_full {e : BulkTransfer × Response} (h : (fragment e).Full) :
    ∃ data, e.2 = .done data := by
  obtain ⟨data, hdata, -⟩ := h
  rcases hresp : e.2 with bytes | errno
  · exact ⟨bytes, rfl⟩
  · simp [fragment, BulkTransfer.received, hresp] at hdata

/-- All transfers succeed, but for the last one perhaps. -/
theorem BulkRun.succeeds {rc : Except SdrggError Unit} {actual : UInt32} {es : BulkLog}
    (h : BulkRun env s t len total rc actual es) :
    (∃ pre e errno, es = pre ++ [(e, .fail errno)] ∧ ∀ f ∈ pre, ∃ data, f.2 = .done data) ∨
      ∀ f ∈ es, ∃ data, f.2 = .done data := by
  obtain rfl | ⟨pre, ⟨e, resp⟩, rfl⟩ := List.eq_nil_or_concat' es
  · exact .inr (by simp)
  have hpre : ∀ f ∈ pre, ∃ data, f.2 = .done data := by
    intro f hf
    obtain ⟨front, back, rfl⟩ := List.append_of_mem hf
    have hsplit : (front ++ f :: back ++ [(e, resp)]).map fragment
        = front.map fragment ++ fragment f :: (back ++ [(e, resp)]).map fragment := by
      simp
    exact done_of_full (h.fragments.full_of_more hsplit (by simp))
  cases resp with
  | fail errno => exact .inl ⟨pre, e, errno, rfl, hpre⟩
  | done data =>
    refine .inr fun f hf => ?_
    obtain hf | hf := List.mem_append.mp hf
    · exact hpre f hf
    · obtain rfl := List.mem_singleton.mp hf
      exact ⟨data, rfl⟩

/-- Transfers that succeed leave no trace in the bookkeeping. -/
theorem foldl_notedBulk (d : Device) {es : BulkLog} (h : ∀ f ∈ es, ∃ data, f.2 = .done data) :
    es.foldl (fun d e => d.notedBulk e.2) d = d := by
  induction es with
  | nil => rfl
  | cons f es ih =>
    obtain ⟨⟨data, hdata⟩, hrest⟩ := List.forall_mem_cons.mp h
    rw [List.foldl_cons, hdata]
    exact ih hrest

end Runs

/-- The bytes that the transfers have received, one after the other. -/
def bytesRead (es : BulkLog) : List UInt8 := gathered (es.map fragment)

/-- A call of `bulk_read` that began in `s` and has returned `rc` in `t` is one read of at most `len`
bytes in the transfers `es`, the first one first. -/
structure OneRead (env : StreamEnv) (s t : StreamWorld) (len : UInt32) (rc : Except SdrggError Unit)
    (actual : UInt32) (es : BulkLog) : Prop where
  made : t.bulkLog = es.reverse ++ s.bulkLog
  answered : ∀ pre e post, es = pre ++ e :: post → env.bulk (pre.reverse ++ s.bulkLog) e.1 = e.2
  within : ∀ e ∈ es, e.1.offset.toNat + e.1.len.toNat ≤ len.toNat ∧ e.1.len ≤ maxChunk
  stops : ∀ pre e post, es = pre ++ e :: post → ¬(fragment e).Full → post = []
  goesOn : (∀ e ∈ es, (fragment e).Full) → actual = len
  stored : ∀ i (h : i < (bytesRead es).length), t.buf i = (bytesRead es)[i]
  kept : ∀ i, (bytesRead es).length ≤ i → t.buf i = s.buf i
  total : actual.toNat = (bytesRead es).length
  fits : actual ≤ len
  failed : rc = .error .io ↔ ∃ e errno, es.head? = some (e, .fail errno)
  returned : rc = .ok () ∨ rc = .error .io

/-- `bulk_read` returns, and is one read, whatever the kernel answers to each of its transfers. -/
theorem bulkRead_one_read (env : StreamEnv) (s : StreamWorld) (len timeoutMs : UInt32) :
    ∃ rc actual t es, bulkRead len timeoutMs env s = (.ok (rc, actual), t) ∧
      OneRead env s t len rc actual es := by
  obtain ⟨rc, actual, t, es, hrun, h⟩ := @bulkLoop_run env s len timeoutMs 0 UInt32.zero_le
  have hbuf : t.buf = store s.buf 0 (bytesRead es) := h.buf.trans (h.fragments.stored_eq s.buf)
  have htotal : actual.toNat = (bytesRead es).length := by
    rw [h.actual, UInt32.toNat_zero, Nat.zero_add]
    rfl
  have hsplit {pre : BulkLog} {e : BulkTransfer × Response} {post : BulkLog}
      (heq : es = pre ++ e :: post) :
      es.map fragment = pre.map fragment ++ fragment e :: post.map fragment := by
    rw [heq, List.map_append, List.map_cons]
  refine ⟨rc, actual, t, es, hrun, h.log, h.answers, ?_, ?_, ?_, ?_, ?_, htotal, ?_, ?_, ?_⟩
  · intro e he
    refine ⟨h.fragments.within _ (List.mem_map_of_mem he), ?_⟩
    obtain ⟨pre, post, heq⟩ := List.append_of_mem he
    have hsize : e.1.len.toNat = min maxChunk.toNat _ := (h.fragments.asks (hsplit heq)).2
    rw [UInt32.le_iff_toNat_le, hsize]
    exact Nat.min_le_left _ _
  · intro pre e post heq hnot
    by_contra hpost
    exact hnot (h.fragments.full_of_more (hsplit heq) (by simpa using hpost))
  · intro hfull
    have hcomplete := h.fragments.complete fun f hf => by
      obtain ⟨e, he, rfl⟩ := List.mem_map.mp hf
      exact hfull e he
    rw [← UInt32.toNat_inj, h.actual, hcomplete]
  · intro i hi
    have hstored := store_add s.buf 0 hi
    rwa [← hbuf, Nat.zero_add] at hstored
  · intro i hi
    rw [hbuf, store_of_ge _ _ (by omega)]
  · rw [UInt32.le_iff_toNat_le, htotal]
    have hle := h.fragments.length_le
    rwa [UInt32.toNat_zero, Nat.zero_add] at hle
  · obtain ⟨hrc, -, e, errno, rfl⟩ | ⟨hrc, hnone⟩ := h.rc
    · exact iff_of_true hrc ⟨e, errno, rfl⟩
    · refine iff_of_false (by simp [hrc]) ?_
      rintro ⟨e, errno, hhead⟩
      exact hnone rfl e errno hhead
  · obtain ⟨hrc, -⟩ | ⟨hrc, -⟩ := h.rc
    · exact .inr hrc
    · exact .inl hrc

end Sdrgg.Usb
