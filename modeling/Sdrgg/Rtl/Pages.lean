import Sdrgg.Rtl.Bus
import Sdrgg.Rtl.Demod

/-! Bulk accesses to the demodulator against single ones, over the registers of all of its pages. -/

namespace Sdrgg.Rtl

open ProofKit Usb

/-! ### Bulk accesses -/

/-- `demod::write_bulk`. -/
def demodWriteBulk (block : UInt8) (reg : UInt16) (data : List UInt8) : DevM Unit :=
  if block = 0 then
    let page := (reg >>> 8).toUInt8
    let regoff := reg.toUInt8
    data.zipIdx.forM fun entry =>
      submitDemodWrite page (regoff.toNat + entry.2).toUInt8 entry.1.toUInt16 1
  else if block = 1 then controlWrite reg 0x0110 data
  else if block = 2 then controlWrite reg 0x0210 data
  else Act.fail .param

/-- Reads of one byte each into the places of a buffer from place `i` on, to the first that fails,
with what the buffer holds then. -/
def readEach (read : Nat → UInt8 → DevM UInt8) :
    Nat → List UInt8 → DevM (Except SdrggError Unit × List UInt8)
  | _, [] => pure (.ok (), [])
  | i, byte :: buf => do
    match ← Act.attempt (read i byte) with
    | .error e => pure (.error e, byte :: buf)
    | .ok byte =>
      let rest ← readEach read (i + 1) buf
      pure (rest.1, byte :: rest.2)

/-- A read of a whole buffer, which a failure leaves as it is. -/
def readWhole (value index : UInt16) (buf : List UInt8) :
    DevM (Except SdrggError Unit × List UInt8) := do
  match ← Act.attempt (controlRead value index buf.length.toUInt16 buf) with
  | .error e => pure (.error e, buf)
  | .ok data => pure (.ok (), data)

/-- `demod::read_bulk` into a buffer. -/
def demodReadBulk (block : UInt8) (reg : UInt16) (buf : List UInt8) :
    DevM (Except SdrggError Unit × List UInt8) :=
  if block = 0 then
    let page := (reg >>> 8).toUInt8
    let regoff := reg.toUInt8
    readEach (fun i byte => submitDemodRead page (regoff.toNat + i).toUInt8 byte) 0 buf
  else if block = 1 then readWhole reg 0x0100 buf
  else if block = 2 then readWhole reg 0x0200 buf
  else pure (.error .param, buf)

/-- Single writes to `reg`, `reg + 1` and so on. -/
def writeSingly (reg : UInt16) (data : List UInt8) : DevM Unit :=
  data.zipIdx.forM fun entry => demodWrite 0 (reg + entry.2.toUInt16) entry.1

/-- Single reads of `reg`, `reg + 1` and so on. -/
def readSingly (reg : UInt16) (buf : List UInt8) : DevM (Except SdrggError Unit × List UInt8) :=
  readEach (fun i byte => demodRead 0 (reg + i.toUInt16) byte) 0 buf

/-! ### The pages -/

/-- The registers of the demodulator, with a page under the index of its writes. -/
abbrev DemodPages := UInt16 → UInt8 → UInt8

def DemodPages.apply (r : DemodPages) : Transfer → DemodPages
  | .write value index data =>
    if index = 0x11 then Function.update r 0x11 (demodWritten (r 0x11) (value >>> 8).toUInt8 data)
    else if index < 0x0100 then
      Function.update r index (written (r index) (value >>> 8).toUInt8 data)
    else r
  | _ => r

/-- The registers after the transfers of a log. -/
def DemodPages.after (r : DemodPages) : Log → DemodPages
  | [] => r
  | (t, .done _) :: log => (r.after log).apply t
  | (_, .fail _) :: log => r.after log

/-- The registers in a world whose device had the registers `r` before its first transfer. -/
def pages (r : DemodPages) (w : World) : DemodPages := r.after w.log

/-- The index of a write to a page. -/
def pageIndex (page : UInt8) : UInt16 := 0x10 ||| page.toUInt16

/-- Page 1 is the page of the chip. -/
theorem pages_page1 (c : Chip) (r : DemodPages) (h : r 0x11 = c.demod) (w : World) :
    pages r w 0x11 = page1 c w := by
  rw [pages, page1, chip]
  induction w.log with
  | nil => exact h
  | cons entry log ih =>
    obtain ⟨t, resp⟩ := entry
    cases resp with
    | fail errno => exact ih
    | done bytes =>
      rw [DemodPages.after, Chip.after]
      cases t with
      | write value index data =>
        by_cases hindex : index = 0x11
        · simp only [DemodPages.apply, Chip.apply, if_pos hindex, Function.update_self, ih]
        · have hupdate (f : UInt8 → UInt8) :
              Function.update (r.after log) index f 0x11 = r.after log 0x11 :=
            Function.update_of_ne (Ne.symm hindex) _ _
          simp only [DemodPages.apply, Chip.apply, if_neg hindex]
          split <;> split <;> simp only [hupdate, ih]
      | read value index len => exact ih
      | reset => exact ih
      | claimInterface interface => exact ih

/-! ### Single writes -/

/-- The transfer of a write of one byte. -/
def byteWrite (page reg val : UInt8) : Transfer := .write (demodValue reg) (pageIndex page) [val]

section Writes

variable {r : DemodPages} {env : Env} {w : World} {page reg val : UInt8}

theorem submitDemodWrite_byte (page reg val : UInt8) :
    submitDemodWrite page reg val.toUInt16 1 = (do
      controlWrite (demodValue reg) (pageIndex page) [val]
      Act.ignore (controlRead 0x0120 0x000a 1 [0])) := by
  simp [submitDemodWrite, payload, pageIndex]

/-- A write that the kernel carries out is applied, and read back whatever comes of that. -/
theorem submitDemodWrite_done {bytes : List UInt8}
    (h : env.kernel w.log (byteWrite page reg val) = .done bytes) :
    ∃ u, submitDemodWrite page reg val.toUInt16 1 env w = (.ok (), u) ∧
      u.log.length = w.log.length + 2 ∧ pages r u = (pages r w).apply (byteWrite page reg val) := by
  obtain ⟨u, hu, hulog⟩ := @controlWrite_run env (demodValue reg) (pageIndex page) [val] w
  obtain ⟨v, hv, hvlog⟩ := @controlRead_run env 0x0120 0x000a 1 [0] u
  rw [byteWrite] at h
  rw [h] at hu hulog
  refine ⟨v, ?_, by rw [hvlog, hulog]; rfl, ?_⟩
  · rw [submitDemodWrite_byte]
    refine (Act.bind_of_ok hu).trans ?_
    cases hread : env.kernel u.log (.read 0x0120 0x000a 1) with
    | done data =>
      rw [hread] at hv
      exact Act.bind_of_ok (Act.attempt_of_ok hv)
    | fail errno =>
      rw [hread] at hv
      exact Act.bind_of_ok (Act.attempt_of_error hv)
  · rw [pages, hvlog, hulog]
    cases env.kernel _ (.read 0x0120 0x000a 1) <;> rfl

theorem submitDemodWrite_failed {errno : Errno}
    (h : env.kernel w.log (byteWrite page reg val) = .fail errno) :
    ∃ u, submitDemodWrite page reg val.toUInt16 1 env w = (.error (.error .usb), u) ∧
      pages r u = pages r w := by
  obtain ⟨u, hu, hulog⟩ := @controlWrite_run env (demodValue reg) (pageIndex page) [val] w
  rw [byteWrite] at h
  rw [h] at hu hulog
  refine ⟨u, ?_, by rw [pages, hulog]; rfl⟩
  rw [submitDemodWrite_byte]
  exact Act.bind_of_error hu

/-- A write that fails leaves the registers as they are. -/
theorem submitDemodWrite_fault {f : Fault SdrggError} {w' : World}
    (h : submitDemodWrite page reg val.toUInt16 1 env w = (.error f, w')) :
    pages r w' = pages r w := by
  cases hkernel : env.kernel w.log (byteWrite page reg val) with
  | done bytes =>
    obtain ⟨u, hu, -⟩ := submitDemodWrite_done (r := r) hkernel
    cases hu.symm.trans h
  | fail errno =>
    obtain ⟨u, hu, hpages⟩ := submitDemodWrite_failed (r := r) hkernel
    cases hu.symm.trans h
    exact hpages

/-- A write to one page leaves the others alone. -/
theorem apply_byteWrite_ne (r : DemodPages) {index : UInt16} (h : index ≠ pageIndex page) :
    r.apply (byteWrite page reg val) index = r index := by
  simp only [byteWrite, DemodPages.apply]
  split
  · rename_i hone
    exact Function.update_of_ne (hone ▸ h) _ _
  · split
    · exact Function.update_of_ne h _ _
    · rfl

/-- A write of a register other than 0x01. -/
theorem apply_byteWrite_self (r : DemodPages) (h : reg ≠ 0x01) :
    r.apply (byteWrite page reg val) (pageIndex page) reg = val := by
  have hindex : ∀ n < 256, pageIndex (UInt8.ofNat n) < 0x0100 := by decide +kernel
  have hindex : pageIndex page < 0x0100 := by simpa using hindex page.toNat page.toNat_lt
  have hreset : demodWritten (r 0x11) reg [val] = Function.update (r 0x11) reg val := by
    simp [demodWritten, resetsDdc, h, written]
  simp only [byteWrite, DemodPages.apply, demodValue_reg, if_pos hindex]
  split
  · rename_i hone
    rw [hone, Function.update_self, hreset, Function.update_self]
  · rw [Function.update_self]
    exact Function.update_self _ _ _

end Writes

/-! ### Addresses -/

section Addresses

variable (reg : UInt16) (i : Nat)

/-- The offset of an address in its page. -/
theorem offset_toUInt8 : (reg + i.toUInt16).toUInt8 = (reg.toUInt8.toNat + i).toUInt8 := by
  rw [← UInt8.toNat_inj]
  simp

theorem page_toNat (reg : UInt16) : (reg >>> 8).toUInt8.toNat = reg.toNat / 256 := by
  have hlt := reg.toNat_lt
  simp only [UInt16.toNat_toUInt8, UInt16.toNat_shiftRight, UInt16.reduceToNat, Nat.reduceMod,
    Nat.shiftRight_eq_div_pow]
  omega

theorem add_toNat : (reg + i.toUInt16).toNat = (reg.toNat + i) % 65536 := by
  simp [UInt16.toNat_add]

variable {reg i}

/-- An address in the same page. -/
theorem page_same (h : reg.toUInt8.toNat + i < 256) :
    ((reg + i.toUInt16) >>> 8).toUInt8 = (reg >>> 8).toUInt8 := by
  have hlt := reg.toNat_lt
  rw [UInt16.toNat_toUInt8] at h
  rw [← UInt8.toNat_inj, page_toNat, page_toNat, add_toNat]
  omega

/-- The address after the last one of a page. -/
theorem page_next (h : reg.toUInt8.toNat + i = 256) :
    ((reg + i.toUInt16) >>> 8).toUInt8 = (reg >>> 8).toUInt8 + 1 := by
  have hlt := reg.toNat_lt
  have hone : (1 : UInt8).toNat = 1 := rfl
  rw [UInt16.toNat_toUInt8] at h
  rw [← UInt8.toNat_inj, UInt8.toNat_add, page_toNat, page_toNat, add_toNat, hone]
  omega

theorem pageIndex_succ (page : UInt8) : pageIndex (page + 1) ≠ pageIndex page := by
  have hall : ∀ n < 256, pageIndex (UInt8.ofNat n + 1) ≠ pageIndex (UInt8.ofNat n) := by
    decide +kernel
  simpa using hall page.toNat page.toNat_lt

end Addresses

/-! ### Accesses within a page -/

/-- The same result and the same registers, and the writes before one that fails. -/
def WritesAgree (reg : UInt16) (data : List UInt8) : Prop :=
  ∀ (r : DemodPages) (env : Env) (w : World),
    (demodWriteBulk 0 reg data env w).1 = (writeSingly reg data env w).1 ∧
    pages r (demodWriteBulk 0 reg data env w).2 = pages r (writeSingly reg data env w).2 ∧
    ∀ f, (demodWriteBulk 0 reg data env w).1 = .error f →
      ∃ k < data.length, ∃ u, writeSingly reg (data.take k) env w = (.ok (), u) ∧
        pages r (demodWriteBulk 0 reg data env w).2 = pages r u

/-- The same result and the same bytes in the buffer. -/
def ReadsAgree (reg : UInt16) (len : Nat) : Prop :=
  ∀ (env : Env) (w : World) (buf : List UInt8), buf.length = len →
    (demodReadBulk 0 reg buf env w).1 = (readSingly reg buf env w).1

section Within

variable {reg : UInt16}

theorem single_eq {i : Nat} (h : reg.toUInt8.toNat + i < 256) (val : UInt8) :
    submitDemodWrite (reg >>> 8).toUInt8 (reg.toUInt8.toNat + i).toUInt8 val.toUInt16 1 =
      demodWrite 0 (reg + i.toUInt16) val := by
  rw [demodWrite, if_pos rfl, page_same h, offset_toUInt8]

theorem writeBulk_eq {data : List UInt8} (h : reg.toUInt8.toNat + data.length ≤ 256) :
    demodWriteBulk 0 reg data = writeSingly reg data := by
  refine (if_pos rfl).trans (Act.forM_congr fun entry hentry => single_eq ?_ entry.1)
  have hlt := List.snd_lt_of_mem_zipIdx hentry
  omega

theorem readEach_congr {read read' : Nat → UInt8 → DevM UInt8} (buf : List UInt8) {i : Nat}
    (h : ∀ j, i ≤ j → j < i + buf.length → read j = read' j) :
    readEach read i buf = readEach read' i buf := by
  induction buf generalizing i with
  | nil => rfl
  | cons byte buf ih =>
    rw [List.length_cons] at h
    unfold readEach
    rw [h i (Nat.le_refl i) (by omega), ih fun j hj hlt => h j (by omega) (by omega)]

theorem readBulk_eq {buf : List UInt8} (h : reg.toUInt8.toNat + buf.length ≤ 256) :
    demodReadBulk 0 reg buf = readSingly reg buf := by
  refine (if_pos rfl).trans (readEach_congr buf fun i _ hi => ?_)
  funext byte
  rw [demodRead, if_pos rfl, page_same (by omega), offset_toUInt8]

theorem take_zipIdx (data : List UInt8) (k : Nat) : data.zipIdx.take k = (data.take k).zipIdx := by
  refine List.ext_getElem? fun i => ?_
  rw [List.getElem?_take]
  by_cases hi : i < k <;> simp [hi]

/-- Writes that fail have been made up to the one that fails. -/
theorem writeSingly_fault {data : List UInt8} (r : DemodPages) {env : Env} {w w' : World}
    {f : Fault SdrggError} (h : writeSingly reg data env w = (.error f, w')) :
    ∃ k < data.length, ∃ u, writeSingly reg (data.take k) env w = (.ok (), u) ∧
      pages r w' = pages r u := by
  obtain ⟨k, hk, u, hu, hfail⟩ := Act.forM_eq_fault h
  refine ⟨k, by simpa using hk, u, ?_, ?_⟩
  · rw [take_zipIdx] at hu
    exact hu
  · rw [demodWrite, if_pos rfl] at hfail
    exact submitDemodWrite_fault hfail

theorem writesAgree_within {data : List UInt8} (h : reg.toUInt8.toNat + data.length ≤ 256) :
    WritesAgree reg data := by
  intro r env w
  rw [writeBulk_eq h]
  exact ⟨rfl, rfl, fun f hf => writeSingly_fault r (Prod.ext hf rfl)⟩

theorem readsAgree_within {len : Nat} (h : reg.toUInt8.toNat + len ≤ 256) : ReadsAgree reg len := by
  intro env w buf hbuf
  rw [readBulk_eq (hbuf.symm ▸ h)]

end Within

/-! ### Writes across the end of a page -/

/-- A kernel that carries out the transfers up to a length of the log. -/
def answering (n : Nat) : Env :=
  ⟨fun log _ => if log.length ≤ n then .done [] else .fail .other, fun _ _ => 0⟩

section Across

variable {r : DemodPages} {n : Nat} {w : World} {page : UInt8}

/-- Writes to one page, of which the kernel carries out all. -/
theorem forM_answered (reg : UInt8 × Nat → UInt8) (es : List (UInt8 × Nat))
    (h : w.log.length + 2 * es.length ≤ n + 2) :
    ∃ u, es.forM (fun e => submitDemodWrite page (reg e) e.1.toUInt16 1) (answering n) w =
        (.ok (), u) ∧
      u.log.length = w.log.length + 2 * es.length ∧
      ∀ index ≠ pageIndex page, pages r u index = pages r w index := by
  induction es generalizing w with
  | nil => exact ⟨w, rfl, rfl, fun _ _ => rfl⟩
  | cons e es ih =>
    rw [List.length_cons] at h
    have hkernel : (answering n).kernel w.log (byteWrite page (reg e) e.1) = .done [] :=
      if_pos (by omega)
    obtain ⟨v, hv, hlength, hpages⟩ := submitDemodWrite_done (r := r) hkernel
    obtain ⟨u, hu, hlength', hothers⟩ := ih (w := v) (by omega)
    refine ⟨u, (Act.bind_of_ok hv).trans hu, by rw [hlength', hlength, List.length_cons]; omega, ?_⟩
    intro index hindex
    rw [hothers index hindex, hpages, apply_byteWrite_ne _ hindex]

/-- The last write that the kernel carries out, and what comes after it. -/
theorem forM_last (place : UInt8 × Nat → UInt8 × UInt8) (e : UInt8 × Nat)
    (es : List (UInt8 × Nat)) (h : w.log.length = n) :
    pages r ((e :: es).forM (fun e => submitDemodWrite (place e).1 (place e).2 e.1.toUInt16 1)
        (answering n) w).2 =
      (pages r w).apply (byteWrite (place e).1 (place e).2 e.1) := by
  have hkernel : (answering n).kernel w.log (byteWrite (place e).1 (place e).2 e.1) = .done [] :=
    if_pos (by omega)
  obtain ⟨v, hv, hlength, hpages⟩ := submitDemodWrite_done (r := r) hkernel
  change pages r ((submitDemodWrite _ _ _ 1 >>= fun _ => es.forM _) (answering n) w).2 = _
  rw [Act.bind_of_ok hv, ← hpages]
  cases es with
  | nil => rfl
  | cons e' es =>
    have hkernel : (answering n).kernel v.log (byteWrite (place e').1 (place e').2 e'.1) =
        .fail .other := if_neg (by omega)
    obtain ⟨u, hu, hpages'⟩ := submitDemodWrite_failed (r := r) hkernel
    change pages r ((submitDemodWrite _ _ _ 1 >>= fun _ => es.forM _) (answering n) v).2 = _
    rw [Act.bind_of_error hu, hpages']

variable {reg : UInt16}

/-- A sequence of writes up to the one at place `k` of the data. -/
theorem forM_zipIdx (act : UInt8 × Nat → DevM Unit) {data : List UInt8} {k : Nat}
    (hk : k < data.length) :
    data.zipIdx.forM act = (data.take k).zipIdx.forM act >>= fun _ =>
      ((data[k], k) :: data.zipIdx.drop (k + 1)).forM act := by
  have hdrop : data.zipIdx.drop k = (data[k], k) :: data.zipIdx.drop (k + 1) := by
    rw [List.drop_eq_getElem_cons (by simpa using hk), List.getElem_zipIdx, Nat.zero_add]
  rw [← hdrop, ← take_zipIdx, ← Act.forM_append, List.take_append_drop]

/-- The registers after a bulk write and after single writes of which the kernel carries out those up
to the first of the next page. -/
theorem writes_last {data : List UInt8} {k : Nat} (hk : k < data.length)
    (hnext : reg.toUInt8.toNat + k = 256) (r : DemodPages) (hw : w.log = []) :
    ∃ u, (∀ index ≠ pageIndex (reg >>> 8).toUInt8, pages r u index = r index) ∧
      pages r (demodWriteBulk 0 reg data (answering (2 * k)) w).2 =
        (pages r u).apply (byteWrite (reg >>> 8).toUInt8 0 data[k]) ∧
      pages r (writeSingly reg data (answering (2 * k)) w).2 =
        (pages r u).apply (byteWrite ((reg >>> 8).toUInt8 + 1) 0 data[k]) := by
  have hlength : (data.take k).zipIdx.length = k := by simp; omega
  have hlog : w.log.length = 0 := congrArg List.length hw
  have hoffset : (reg.toUInt8.toNat + k).toUInt8 = 0 := by
    rw [hnext]
    rfl
  obtain ⟨u, hu, hulength, hothers⟩ := @forM_answered r (2 * k) w (reg >>> 8).toUInt8
    (fun e => (reg.toUInt8.toNat + e.2).toUInt8) (data.take k).zipIdx (by omega)
  have hulength : u.log.length = 2 * k := by omega
  have hsame : (data.take k).zipIdx.forM (fun e => submitDemodWrite (reg >>> 8).toUInt8
      (reg.toUInt8.toNat + e.2).toUInt8 e.1.toUInt16 1) = writeSingly reg (data.take k) := by
    refine Act.forM_congr fun e he => single_eq ?_ e.1
    have hlt := List.snd_lt_of_mem_zipIdx he
    rw [List.length_take] at hlt
    omega
  refine ⟨u, fun index hindex => ?_, ?_, ?_⟩
  · rw [hothers index hindex, pages, hw]
    rfl
  · have hlast := @forM_last r (2 * k) u
      (fun e => ((reg >>> 8).toUInt8, (reg.toUInt8.toNat + e.2).toUInt8)) (data[k], k)
      (data.zipIdx.drop (k + 1)) hulength
    dsimp only at hlast
    rw [demodWriteBulk, if_pos rfl, forM_zipIdx _ hk, Act.bind_of_ok hu, hlast, hoffset]
  · have hlast := @forM_last r (2 * k) u
      (fun e => (((reg + e.2.toUInt16) >>> 8).toUInt8, (reg + e.2.toUInt16).toUInt8)) (data[k], k)
      (data.zipIdx.drop (k + 1)) hulength
    dsimp only at hlast
    rw [hsame] at hu
    have hrun : writeSingly reg data (answering (2 * k)) w = _ :=
      (congrFun (congrFun (forM_zipIdx _ hk) _) w).trans (Act.bind_of_ok hu)
    rw [hrun]
    refine Eq.trans hlast ?_
    rw [page_next hnext, offset_toUInt8, hoffset]

theorem writes_across {data : List UInt8} (h : 256 < reg.toUInt8.toNat + data.length)
    (hw : w.log = []) : ¬WritesAgree reg data := by
  intro hagree
  have hlt := reg.toUInt8.toNat_lt
  obtain ⟨k, hnext⟩ : ∃ k, reg.toUInt8.toNat + k = 256 := ⟨256 - reg.toUInt8.toNat, by omega⟩
  have hk : k < data.length := by omega
  obtain ⟨u, hothers, hbulk, hsingly⟩ := writes_last hk hnext (fun _ _ => data[k] + 1) hw
  have hpages := (hagree (fun _ _ => data[k] + 1) (answering (2 * k)) w).2.1
  rw [hbulk, hsingly] at hpages
  have hreg := congrFun (congrFun hpages (pageIndex ((reg >>> 8).toUInt8 + 1))) 0
  rw [apply_byteWrite_ne _ (pageIndex_succ _), hothers _ (pageIndex_succ _),
    apply_byteWrite_self _ (by decide)] at hreg
  simp at hreg

end Across

/-! ### Reads across the end of a page -/

/-- Registers that hold the low byte of the index they are read under. -/
def pageEcho : Env :=
  { kernel := fun _ t =>
      match t with
      | .read _ index _ => .done [index.toUInt8]
      | _ => .done []
    stack := fun _ _ => 0 }

theorem submitDemodRead_echo (page reg val : UInt8) (w : World) :
    ∃ u, submitDemodRead page reg val pageEcho w = (.ok page, u) := by
  obtain ⟨u, hu, -⟩ := @controlRead_run pageEcho (demodValue reg) page.toUInt16 1 [val] w
  refine ⟨u, (Act.bind_of_ok hu).trans ?_⟩
  simp

theorem readEach_echo (page reg : Nat → UInt8) (buf : List UInt8) (i : Nat) (w : World) :
    ∃ u, readEach (fun i byte => submitDemodRead (page i) (reg i) byte) i buf pageEcho w =
      (.ok (.ok (), (List.range' i buf.length).map page), u) := by
  induction buf generalizing i w with
  | nil => exact ⟨w, rfl⟩
  | cons byte buf ih =>
    obtain ⟨v, hv⟩ := submitDemodRead_echo (page i) (reg i) byte w
    obtain ⟨u, hu⟩ := ih (i + 1) v
    refine ⟨u, (Act.bind_of_ok (Act.attempt_of_ok hv)).trans ?_⟩
    exact Act.bind_of_ok hu

theorem reads_across {reg : UInt16} {len : Nat} (h : 256 < reg.toUInt8.toNat + len) (w : World) :
    ¬ReadsAgree reg len := by
  intro hagree
  have hlt := reg.toUInt8.toNat_lt
  obtain ⟨k, hnext⟩ : ∃ k, reg.toUInt8.toNat + k = 256 := ⟨256 - reg.toUInt8.toNat, by omega⟩
  obtain ⟨u, hu⟩ := readEach_echo (fun _ => (reg >>> 8).toUInt8)
    (fun i => (reg.toUInt8.toNat + i).toUInt8) (List.replicate len 0) 0 w
  obtain ⟨v, hv⟩ := readEach_echo (fun i => ((reg + i.toUInt16) >>> 8).toUInt8)
    (fun i => (reg + i.toUInt16).toUInt8) (List.replicate len 0) 0 w
  have hbytes := hagree pageEcho w (List.replicate len 0) List.length_replicate
  rw [demodReadBulk, if_pos rfl, hu] at hbytes
  have hsingly : (readSingly reg (List.replicate len 0) pageEcho w).1 = _ := congrArg Prod.fst hv
  rw [hsingly, List.length_replicate] at hbytes
  have hk : k < len := by omega
  have hbyte := congrArg (fun out => (out.toOption.map fun p => p.2[k]?)) hbytes
  simp [Except.toOption, hk, page_next hnext] at hbyte

end Sdrgg.Rtl
