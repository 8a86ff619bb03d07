import Sdrgg.Rtl.Pages
import Sdrgg.Rtl.Session

/-! The pages of the demodulator: which registers an operation may change, whatever becomes of it, and
what a sequence of writes that succeeds leaves in them. -/

namespace Sdrgg.Rtl

open ProofKit Usb

/-! ### Transfers -/

section Transfers

variable {r : DemodPages} {env : Env} {w w' : World}

theorem controlWrite_pages {value index : UInt16} {data : List UInt8} {x : Unit}
    (h : controlWrite value index data env w = (.ok x, w')) :
    pages r w' = (pages r w).apply (.write value index data) := by
  obtain ⟨u, hu, hlog⟩ := @controlWrite_run env value index data w
  obtain ⟨hout, rfl⟩ := Prod.mk.inj (hu.symm.trans h)
  rcases hresp : env.kernel w.log (.write value index data) with bytes | errno <;>
    rw [hresp] at hout hlog
  · rw [pages, hlog]
    rfl
  · cases hout

theorem controlWrite_pages_error {value index : UInt16} {data : List UInt8} {e : Fault SdrggError}
    (h : controlWrite value index data env w = (.error e, w')) : pages r w' = pages r w := by
  obtain ⟨u, hu, hlog⟩ := @controlWrite_run env value index data w
  obtain ⟨hout, rfl⟩ := Prod.mk.inj (hu.symm.trans h)
  rcases hresp : env.kernel w.log (.write value index data) with bytes | errno <;>
    rw [hresp] at hout hlog
  · cases hout
  · rw [pages, hlog]
    rfl

theorem keepsPages_controlRead (value index len : UInt16) (buf : List UInt8) :
    Keeps (pages r) (controlRead value index len buf) := by
  intro env w
  obtain ⟨u, hu, hlog⟩ := @controlRead_run env value index len buf w
  rw [hu, pages, hlog]
  cases env.kernel w.log (.read value index len) <;> rfl

/-- A write to another block. -/
theorem keepsPages_block {value index : UInt16} {data : List UInt8} (h : 0x0100 ≤ index) :
    Keeps (pages r) (controlWrite value index data) := by
  intro env w
  rcases hrun : controlWrite value index data env w with ⟨e | _, u⟩
  · exact controlWrite_pages_error hrun
  · have hpage : index ≠ 0x11 := by
      rintro rfl
      exact absurd h (by decide)
    rw [controlWrite_pages hrun, DemodPages.apply, if_neg hpage, if_neg (UInt16.not_lt.mpr h)]

theorem keepsPages_submitBlockWrite {block : UInt8} (h : block = 1 ∨ block = 2)
    (addr val : UInt16) (len : UInt8) : Keeps (pages r) (submitBlockWrite block addr val len) := by
  refine keepsPages_block ?_
  obtain rfl | rfl := h <;> decide

theorem submitDemodWrite_pages {page reg len : UInt8} {val : UInt16}
    (h : submitDemodWrite page reg val len env w = (.ok (), w')) :
    pages r w' = (pages r w).apply (.write (demodValue reg) (pageIndex page) (payload val len)) := by
  obtain ⟨_, u, hu, h⟩ := Act.bind_eq_ok.mp h
  rw [(keepsPages_controlRead _ _ _ _).ignore.world h, controlWrite_pages hu]
  rfl

theorem submitDemodWrite_pages_error {page reg len : UInt8} {val : UInt16} {e : Fault SdrggError}
    (h : submitDemodWrite page reg val len env w = (.error e, w')) : pages r w' = pages r w := by
  obtain h | ⟨_, u, hu, h⟩ := Act.bind_eq_fault.mp h
  · exact controlWrite_pages_error h
  · obtain ⟨v, hv⟩ := ignore_controlRead 0x0120 0x000a 1 [0] env u
    cases hv.symm.trans h

end Transfers

/-! ### Registers that an operation may change -/

/-- Registers by the index of their page. -/
abbrev RegSet := UInt16 → UInt8 → Bool

/-- The registers outside a set, and nothing in it. -/
def outside (owned : RegSet) (r : DemodPages) (w : World) : DemodPages :=
  fun index reg => if owned index reg then 0 else pages r w index reg

theorem outside_eq_iff {owned : RegSet} {r : DemodPages} {w w' : World} :
    outside owned r w' = outside owned r w ↔
      ∀ index reg, owned index reg = false → pages r w' index reg = pages r w index reg := by
  constructor
  · intro h index reg hfree
    have hreg := congrFun (congrFun h index) reg
    simpa [outside, hfree] using hreg
  · intro h
    funext index reg
    unfold outside
    split
    · rfl
    · rename_i hfree
      exact h index reg (by simpa using hfree)

/-- The repeater gate. -/
def gateRegs : RegSet := fun index reg => index = 0x11 && reg = 0x01

def ncoRegs : RegSet := fun index reg => index = 0x11 && (reg = 0x19 || reg = 0x1A || reg = 0x1B)

def ratioRegSet : RegSet := fun index reg =>
  index = 0x11 && (reg = 0x9F || reg = 0xA0 || reg = 0xA1 || reg = 0xA2)

/-- The mode register, which a frequency writes on an FC0012. -/
def modeRegs : RegSet := fun index reg => index = 0x10 && reg = 0x08

def agcRegs : RegSet := fun index reg => index = 0x10 && reg = 0x19

/-- Whatever becomes of the operation, it changes no register outside the set. -/
abbrev Alters {α : Type} (owned : RegSet) (m : DevM α) : Prop := ∀ r, Keeps (outside owned r) m

section Alters

variable {owned : RegSet} {α : Type} {m : DevM α}

theorem alters_of_keeps (h : ∀ r, Keeps (pages r) m) : Alters owned m :=
  fun r => (h r).comp fun (p : DemodPages) index reg => if owned index reg then 0 else p index reg

/-- A write that reaches owned registers only. -/
theorem alters_controlWrite {value index : UInt16} {data : List UInt8}
    (h : ∀ (r : DemodPages) index' reg', owned index' reg' = false →
      r.apply (.write value index data) index' reg' = r index' reg') :
    Alters owned (controlWrite value index data) := by
  intro r env w
  refine outside_eq_iff.mpr fun index' reg' hfree => ?_
  rcases hrun : controlWrite value index data env w with ⟨e | _, u⟩
  · exact congrFun (congrFun (controlWrite_pages_error hrun) _) _
  · rw [controlWrite_pages hrun]
    exact h _ _ _ hfree

theorem alters_controlRead (value index len : UInt16) (buf : List UInt8) :
    Alters owned (controlRead value index len buf) :=
  alters_of_keeps fun _ => keepsPages_controlRead _ _ _ _

/-- What a run of writes leaves beside them. -/
theorem written_ne {regs : UInt8 → UInt8} {reg other : UInt8} {data : List UInt8}
    (h : ∀ k < data.length, other ≠ reg + k.toUInt8) : written regs reg data other = regs other := by
  induction data generalizing regs reg with
  | nil => rfl
  | cons byte data ih =>
    have hfirst : other ≠ reg := by simpa using h 0 (by simp)
    refine (ih fun k hk => ?_).trans (Function.update_of_ne hfirst _ _)
    have hnext := h (k + 1) (by simpa using hk)
    have hsum : reg + 1 + k.toUInt8 = reg + (k + 1).toUInt8 := by
      simp [UInt8.add_assoc, UInt8.add_comm 1]
    rwa [hsum]

/-- A write to a page changes what it writes, and the NCO when it resets the down-converter. -/
theorem alters_submitDemodWrite {page reg len : UInt8} {val : UInt16}
    (hregs : ∀ k < (payload val len).length, owned (pageIndex page) (reg + k.toUInt8) = true)
    (hreset : resetsDdc reg (payload val len) = true →
      ∀ index reg', ncoRegs index reg' = true → owned index reg' = true) :
    Alters owned (submitDemodWrite page reg val len) := by
  intro r
  refine Keeps.bind ((alters_controlWrite fun r index' reg' hfree => ?_) r) fun _ =>
    (alters_controlRead _ _ _ _ r).ignore
  have hwritten (regs : UInt8 → UInt8) (hindex : index' = pageIndex page) :
      written regs reg (payload val len) reg' = regs reg' := by
    refine written_ne fun k hk heq => ?_
    have hreg := hregs k hk
    rw [← heq, ← hindex, hfree] at hreg
    cases hreg
  change DemodPages.apply r (.write (demodValue reg) (pageIndex page) _) index' reg' = _
  by_cases hindex : index' = pageIndex page
  · rw [DemodPages.apply, demodValue_reg, ← hindex]
    split
    · rename_i hone
      subst hone
      rw [Function.update_self, demodWritten]
      split
      · rename_i hddc
        unfold ncoCleared
        split
        · rename_i hnco
          have hreg := hreset hddc 0x11 reg' (by simpa [ncoRegs, or_assoc] using hnco)
          rw [hfree] at hreg
          cases hreg
        · exact hwritten _ hindex
      · exact hwritten _ hindex
    · split
      · rw [Function.update_self]
        exact hwritten _ hindex
      · rfl
  · unfold DemodPages.apply
    dsimp only
    split
    · rename_i hone
      rw [Function.update_of_ne (fun heq => hindex (heq.trans hone.symm))]
    · split
      · rw [Function.update_of_ne hindex]
      · rfl

end Alters

/-! ### Operations that change nothing but the gate -/

section Gate

variable {owned : RegSet} {r : DemodPages} (hgate : owned 0x11 0x01 = true)

@[grind ←] theorem outside_controlRead (value index len : UInt16) (buf : List UInt8) :
    Keeps (outside owned r) (controlRead value index len buf) :=
  alters_controlRead value index len buf r

theorem outside_block {block : UInt8} (h : block = 1 ∨ block = 2) (addr val : UInt16) (len : UInt8) :
    Keeps (outside owned r) (submitBlockWrite block addr val len) :=
  alters_of_keeps (fun _ => keepsPages_submitBlockWrite h addr val len) r

@[grind ←] theorem outside_tunerFrame (addr : UInt16) (data : List UInt8) :
    Keeps (outside owned r) (controlWrite addr 0x0610 data) :=
  alters_of_keeps (fun _ => keepsPages_block (by decide)) r

@[grind ←] theorem outside_tunerReadRandom (addr : UInt16) (location byte : UInt8) :
    Keeps (outside owned r) (tunerReadRandom addr location byte) := by
  grind [tunerReadRandom]

@[grind ←] theorem outside_device : Keeps (outside owned r) device := fun _ _ => rfl

@[grind ←] theorem outside_uninitialised (n : Nat) : Keeps (outside owned r) (uninitialised n) :=
  fun _ _ => rfl

@[grind ←] theorem outside_tunerReadTransfers (reg : UInt8) (data : List UInt8) :
    Keeps (outside owned r) (tunerReadTransfers reg data) := by
  grind [tunerReadTransfers]

@[grind ←] theorem outside_modifyDevice (f : Device → Device) :
    Keeps (outside owned r) (modifyDevice f) :=
  Keeps.modify fun _ => rfl

@[grind ←] theorem outside_modifyTuning (f : TuningContext → TuningContext) :
    Keeps (outside owned r) (modifyTuning f) :=
  Keeps.modify fun _ => rfl

@[grind ←] theorem outside_updateSystem (addr : UInt16) (b : UInt8) (change : UInt8 → UInt8) :
    Keeps (outside owned r) (updateSystem addr b change) :=
  ((outside_controlRead _ _ _ _).bind fun _ => Keeps.pure _).orElse b |>.bind fun _ =>
    (outside_block (.inr rfl) _ _ _).ignore.bind fun _ => Keeps.pure _

@[grind ←] theorem outside_setGpioOutput (gpio : UInt8) :
    Keeps (outside owned r) (setGpioOutput gpio) := by
  grind [setGpioOutput]

@[grind ←] theorem outside_setGpioBit (gpio : UInt8) (val : Bool) :
    Keeps (outside owned r) (setGpioBit gpio val) := by
  grind [setGpioBit]

theorem outside_stopBulk : Keeps (outside owned r) stopBulk := outside_block (.inl rfl) _ _ _

theorem outside_startBulk : Keeps (outside owned r) startBulk :=
  (outside_block (.inl rfl) _ _ _).bind fun _ => outside_block (.inl rfl) _ _ _

include hgate

@[grind ←] theorem outside_enableI2cRepeater (enable : Bool) :
    Keeps (outside owned r) (enableI2cRepeater enable) := by
  refine alters_submitDemodWrite (fun k hk => ?_) (fun hreset => ?_) r
  · obtain rfl : k = 0 := by simpa [payload] using hk
    exact hgate
  · cases enable <;> exact absurd hreset (by decide)

@[grind ←] theorem outside_tunerWrite (data : List UInt8) :
    Keeps (outside owned r) (tunerWrite data) := by
  grind [tunerWrite]

@[grind ←] theorem outside_tunerRead (reg len : UInt8) :
    Keeps (outside owned r) (tunerRead reg len) := by
  grind [tunerRead]

@[grind ←] theorem outside_tunerWriteReg (reg val : UInt8) :
    Keeps (outside owned r) (tunerWriteReg reg val) := by
  grind [tunerWriteReg]

@[grind ←] theorem outside_tunerReadReg (reg : UInt8) :
    Keeps (outside owned r) (tunerReadReg reg) := by
  grind [tunerReadReg]

@[grind ←] theorem outside_tunerCurrent (reg : UInt8) :
    Keeps (outside owned r) (tunerCurrent reg) := by
  grind [tunerCurrent]

@[grind ←] theorem outside_tunerRmw (reg val mask : UInt8) :
    Keeps (outside owned r) (tunerRmw reg val mask) := by
  grind [tunerRmw]

end Gate

/-! ### The NCO, the ratio and the reset -/

section Baseband

variable {owned : RegSet} {r : DemodPages}
  (hnco : ∀ index reg, ncoRegs index reg = true → owned index reg = true)

/-- A write of one byte that does not reset the down-converter. -/
theorem outside_demodByte {page reg : UInt8} (val : UInt16) (hreg : reg ≠ 0x01)
    (howned : owned (pageIndex page) reg = true) :
    Keeps (outside owned r) (submitDemodWrite page reg val 1) := by
  refine alters_submitDemodWrite (fun k hk => ?_) (fun hreset => ?_) r
  · obtain rfl : k = 0 := by simpa [payload] using hk
    simpa using howned
  · simp [resetsDdc, hreg] at hreset

include hnco

theorem outside_setIfFreq (ifFreqHz : UInt32) : Keeps (outside owned r) (setIfFreq ifFreqHz) := by
  refine Keeps.bind ?_ fun _ => outside_modifyTuning _
  exact outside_device.bind fun dev => (Keeps.ofOption _).bind fun word =>
    (outside_demodByte _ (by decide) (hnco 0x11 0x19 rfl)).bind fun _ =>
      (outside_demodByte _ (by decide) (hnco 0x11 0x1A rfl)).bind fun _ =>
        outside_demodByte _ (by decide) (hnco 0x11 0x1B rfl)

theorem outside_reprogramIf : Keeps (outside owned r) reprogramIf := by
  refine outside_device.bind fun dev => ?_
  split
  · exact outside_setIfFreq hnco _
  · exact Keeps.pure _

/-- A write of register 0x01. -/
theorem outside_demodControl (hgate : owned 0x11 0x01 = true) (val : UInt16) :
    Keeps (outside owned r) (submitDemodWrite 1 0x01 val 1) := by
  refine alters_submitDemodWrite (fun k hk => ?_) (fun _ => hnco) r
  obtain rfl : k = 0 := by simpa [payload] using hk
  exact hgate

theorem outside_programRatio (hgate : owned 0x11 0x01 = true)
    (hratio : ∀ index reg, ratioRegSet index reg = true → owned index reg = true) (ratio : UInt32) :
    Keeps (outside owned r) (programRatio ratio) := by
  have hpair (reg : UInt8) (val : UInt16) (hreg : reg ≠ 0x01) (hfirst : owned 0x11 reg = true)
      (hsecond : owned 0x11 (reg + 1) = true) :
      Keeps (outside owned r) (submitDemodWrite 1 reg val 2) := by
    refine alters_submitDemodWrite (fun k hk => ?_) (fun hreset => ?_) r
    · obtain rfl | rfl : k = 0 ∨ k = 1 := by
        simp only [payload] at hk
        have : k < 2 := hk
        omega
      · change owned 0x11 (reg + 0) = true
        rwa [UInt8.add_zero]
      · exact hsecond
    · simp [resetsDdc, hreg] at hreset
  exact (hpair 0x9F _ (by decide) (hratio 0x11 0x9F rfl) (hratio 0x11 0xA0 rfl)).bind fun _ =>
    (hpair 0xA1 _ (by decide) (hratio 0x11 0xA1 rfl) (hratio 0x11 0xA2 rfl)).bind fun _ =>
      (outside_demodControl hnco hgate _).bind fun _ => outside_demodControl hnco hgate _

theorem outside_resetDemod (hgate : owned 0x11 0x01 = true) :
    Keeps (outside owned r) resetDemod := by
  have hread (val : UInt8) : Keeps (outside owned r) (demodRead 0 0x0101 val) :=
    (outside_controlRead _ _ _ _).bind fun _ => Keeps.pure _
  exact (outside_uninitialised 1).bind fun _ => (hread _).bind fun _ =>
    (outside_demodControl hnco hgate _).bind fun _ => outside_demodControl hnco hgate _

end Baseband

/-! ### What is known of the pages -/

/-- A register of the demodulator, under the index of its page, with its value. -/
structure PageByte where
  index : UInt16
  reg : UInt8
  val : UInt8
deriving DecidableEq, Repr

/-- The registers hold the values of a list. -/
def PagesHold (known : List PageByte) (r : DemodPages) : Prop :=
  ∀ b ∈ known, r b.index b.reg = b.val

/-- What is known after a write of `data` to the registers from `reg` on. -/
def learnBytes (known : List PageByte) (index : UInt16) (reg : UInt8) : List UInt8 → List PageByte
  | [] => known
  | byte :: data =>
    learnBytes (⟨index, reg, byte⟩ :: known.filter fun b => b.index ≠ index ∨ b.reg ≠ reg) index
      (reg + 1) data

/-- What is known after a write, which may reset the down-converter. -/
def learnWrite (known : List PageByte) (index : UInt16) (reg : UInt8) (data : List UInt8) :
    List PageByte :=
  let known := learnBytes known index reg data
  if resetsDdc reg data then known.filter fun b => ncoRegs b.index b.reg = false else known

/-- What is known after a descriptor has been applied. -/
def learn (known : List PageByte) (rd : RegDescriptor) : List PageByte :=
  match rd.domain with
  | .demodInternal =>
    learnWrite known (pageIndex rd.page) rd.offset.toUInt8 (payload rd.payload rd.width)
  | _ => known

section Known

variable {known : List PageByte} {r : DemodPages} {env : Env} {w w' : World}

theorem PagesHold.filter (h : PagesHold known r) (p : PageByte → Bool) :
    PagesHold (known.filter p) r :=
  fun b hb => h b (List.mem_of_mem_filter hb)

theorem PagesHold.of_outside {owned : RegSet} (h : PagesHold known (pages r w))
    (hfree : ∀ b ∈ known, owned b.index b.reg = false)
    (heq : outside owned r w' = outside owned r w) : PagesHold known (pages r w') :=
  fun b hb => (outside_eq_iff.mp heq _ _ (hfree b hb)).trans (h b hb)

theorem shows_learnBytes {index : UInt16} {reg : UInt8} {data : List UInt8}
    (h : PagesHold known r) :
    PagesHold (learnBytes known index reg data)
      (Function.update r index (written (r index) reg data)) := by
  induction data generalizing known r reg with
  | nil =>
    rw [written, Function.update_eq_self]
    exact h
  | cons byte data ih =>
    have hfirst : PagesHold
        (⟨index, reg, byte⟩ :: known.filter fun b => b.index ≠ index ∨ b.reg ≠ reg)
        (Function.update r index (Function.update (r index) reg byte)) := by
      refine List.forall_mem_cons.mpr ⟨?_, fun b hb => ?_⟩
      · rw [Function.update_self, Function.update_self]
      · obtain ⟨hmem, hne⟩ := List.mem_filter.mp hb
        rw [← h b hmem]
        by_cases hindex : b.index = index
        · have hreg : b.reg ≠ reg := by simpa [hindex] using hne
          rw [hindex, Function.update_self, Function.update_of_ne hreg]
        · rw [Function.update_of_ne hindex]
    have hrest := @ih _ _ (reg + 1) hfirst
    rwa [Function.update_self, Function.update_idem] at hrest

theorem shows_learnWrite {index : UInt16} {reg : UInt8} {data : List UInt8}
    (hindex : index < 0x0100) (h : PagesHold known r) :
    PagesHold (learnWrite known index reg data) (r.apply (.write (demodValue reg) index data)) := by
  have hbytes := @shows_learnBytes _ _ index reg data h
  rw [DemodPages.apply, demodValue_reg, if_pos hindex]
  unfold learnWrite
  dsimp only
  by_cases hddc : resetsDdc reg data = true
  · rw [if_pos hddc]
    intro b hb
    obtain ⟨hmem, hnco⟩ := List.mem_filter.mp hb
    rw [← hbytes b hmem]
    split
    · rename_i hone
      subst hone
      rw [demodWritten, if_pos hddc]
      by_cases hpage : b.index = 0x11
      · have hreg : ¬(b.reg = 0x19 ∨ b.reg = 0x1A ∨ b.reg = 0x1B) := by
          simpa [ncoRegs, hpage, and_assoc] using hnco
        rw [hpage, Function.update_self, Function.update_self, ncoCleared, if_neg hreg]
      · rw [Function.update_of_ne hpage, Function.update_of_ne hpage]
    · rfl
  · rw [if_neg hddc]
    split
    · rename_i hone
      subst hone
      rw [demodWritten, if_neg hddc]
      exact hbytes
    · exact hbytes

theorem applyDescriptor_shows {rd : RegDescriptor} (h : PagesHold known (pages r w))
    (hrun : applyDescriptor rd env w = (.ok (), w')) : PagesHold (learn known rd) (pages r w') := by
  unfold applyDescriptor at hrun
  unfold learn
  cases hdomain : rd.domain with
  | usbFabric =>
    rw [hdomain] at hrun
    dsimp only
    rw [(keepsPages_submitBlockWrite (.inl rfl) _ _ _).world hrun]
    exact h
  | systemFabric =>
    rw [hdomain] at hrun
    dsimp only
    rw [(keepsPages_submitBlockWrite (.inr rfl) _ _ _).world hrun]
    exact h
  | demodInternal =>
    rw [hdomain] at hrun
    dsimp only
    have hindex : ∀ n < 256, pageIndex (UInt8.ofNat n) < 0x0100 := by decide +kernel
    rw [submitDemodWrite_pages hrun]
    exact shows_learnWrite (by simpa using hindex rd.page.toNat rd.page.toNat_lt) h

/-- Descriptors that have all been applied. -/
theorem applyDescriptors_shows {ds : List RegDescriptor} (h : PagesHold known (pages r w))
    (hrun : applyDescriptors ds env w = (.ok (), w')) :
    PagesHold (ds.foldl learn known) (pages r w') := by
  induction ds generalizing known w with
  | nil =>
    cases hrun
    exact h
  | cons rd ds ih =>
    obtain ⟨_, u, hu, hrun⟩ := Act.bind_eq_ok.mp hrun
    exact ih (applyDescriptor_shows h hu) hrun

end Known

/-! ### The boot -/

/-- The filter coefficients as descriptors. -/
def specCoefficients : List RegDescriptor :=
  (List.range 20).map fun k =>
    demodReg 1 (0x1C + k.toUInt8) ((packCoefficients filterKernel).getD k 0).toUInt16 1

theorem deployFilterCoefficients_eq :
    deployFilterCoefficients = applyDescriptors specCoefficients := by
  unfold applyDescriptors specCoefficients
  simp only [List.forM_eq_forM, List.forM_map]
  rfl

/-- What the boot writes to the demodulator. -/
def bootDescriptors : List RegDescriptor :=
  specDdcInitialize ++ specCoefficients ++ specSignalMode

/-- What the boot leaves beside the gate. -/
def bootBytes : List PageByte :=
  (bootDescriptors.foldl learn []).filter fun b => gateRegs b.index b.reg = false

/-- The descriptors of the IF mode of a family. -/
def specIfMode (family : TunerType) : List RegDescriptor :=
  if family.isR820t then specR820tIfMode else specFc0012IfMode

/-- The registers that keep the values of the boot and of the IF mode of the family. -/
def standingBytes (family : TunerType) : List PageByte :=
  [ ⟨0x10, 0x06, 0x80⟩, ⟨0x10, 0x08, if family.isR820t then 0x4D else 0xCD⟩, ⟨0x10, 0x0D, 0x83⟩,
    ⟨0x10, 0x61, 0x60⟩, ⟨0x11, 0x04, 0x00⟩, ⟨0x11, 0x11, 0x00⟩,
    ⟨0x11, 0x15, if family.isR820t then 0x01 else 0x00⟩, ⟨0x11, 0x16, 0x00⟩, ⟨0x11, 0x17, 0x00⟩,
    ⟨0x11, 0x18, 0x00⟩, ⟨0x11, 0x93, 0xF0⟩, ⟨0x11, 0x94, 0x0F⟩,
    ⟨0x11, 0xB1, if family.isR820t then 0x1A else 0x1B⟩ ] ++
  (List.range 20).map fun k => ⟨0x11, 0x1C + k.toUInt8, (packCoefficients filterKernel).getD k 0⟩

/-- The gain control of the demodulator, which the boot leaves off. -/
def agcByte (enable : Bool) : PageByte := ⟨0x10, 0x19, if enable then 0x25 else 0x05⟩

theorem standingBytes_learned {family : TunerType} {b : PageByte}
    (h : b ∈ agcByte false :: standingBytes family) :
    b ∈ (specIfMode family).foldl learn bootBytes := by
  have hall (isR820t : Bool) (hfamily : family.isR820t = isR820t) :
      ∀ b ∈ agcByte false :: standingBytes family,
        b ∈ (specIfMode family).foldl learn bootBytes := by
    simp only [standingBytes, specIfMode, hfamily]
    cases isR820t <;> decide +kernel
  exact hall _ rfl b h

theorem bootBytes_free {b : PageByte} (h : b ∈ bootBytes) : gateRegs b.index b.reg = false := by
  simpa using (List.mem_filter.mp h).2

/-- None of them is the gate, or a register of the NCO or of the ratio. -/
theorem standingBytes_free {family : TunerType} {b : PageByte}
    (h : b ∈ agcByte false :: standingBytes family) :
    gateRegs b.index b.reg = false ∧ ncoRegs b.index b.reg = false ∧
      ratioRegSet b.index b.reg = false := by
  have hall (isR820t : Bool) (hfamily : family.isR820t = isR820t) :
      ∀ b ∈ agcByte false :: standingBytes family, gateRegs b.index b.reg = false ∧
        ncoRegs b.index b.reg = false ∧ ratioRegSet b.index b.reg = false := by
    simp only [standingBytes, hfamily]
    cases isR820t <;> decide +kernel
  exact hall _ rfl b h

theorem standingBytes_agc {family : TunerType} {b : PageByte} (h : b ∈ standingBytes family) :
    agcRegs b.index b.reg = false := by
  have hall (isR820t : Bool) (hfamily : family.isR820t = isR820t) :
      ∀ b ∈ standingBytes family, agcRegs b.index b.reg = false := by
    simp only [standingBytes, hfamily]
    cases isR820t <;> decide +kernel
  exact hall _ rfl b h

theorem standingBytes_mode {family : TunerType} :
    ⟨0x10, 0x08, if family.isR820t then 0x4D else 0xCD⟩ ∈ standingBytes family := by
  simp [standingBytes]

section Boot

variable {r : DemodPages} {env : Env} {w w' : World}

/-- What a boot that succeeds has written. -/
theorem boot_shows (h : boot env w = (.ok (), w')) :
    PagesHold bootBytes (pages r w') := by
  obtain ⟨_, u, hu, h⟩ := Act.bind_eq_ok.mp h
  obtain ⟨_, v, hv, h⟩ := Act.bind_eq_ok.mp h
  obtain ⟨_, x, hx, h⟩ := Act.bind_eq_ok.mp h
  obtain ⟨_, y, hy, h⟩ := Act.bind_eq_ok.mp h
  obtain ⟨_, z, hz, h⟩ := Act.bind_eq_ok.mp h
  rw [deployFilterCoefficients_eq] at hz
  have hnone : PagesHold [] (pages r x) := nofun
  have hddc := applyDescriptors_shows hnone hy
  have hfilter := applyDescriptors_shows hddc hz
  refine PagesHold.filter ?_ _
  rw [bootDescriptors, List.foldl_append, List.foldl_append]
  exact applyDescriptors_shows hfilter h

end Boot

end Sdrgg.Rtl
