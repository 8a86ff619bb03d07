import Sdrgg.ProofKit.Run
import Mathlib.Data.List.Nodup
import Mathlib.Logic.Function.Basic

/-! The devices of one context, under any number of threads in `sdr::open_path` and `sdr::close`, and
the last `sdr::destroy`.  A section under `ctx->lock` is one step, and so are the allocation and the
release of a device.  A device is known by its address, which may be used again. -/

namespace Sdrgg.Sdr

open ProofKit

/-- `SDRGG_MAX_DEVICES`. -/
def maxDevices : Nat := 8

/-- `devices` and `dev_count` of `sdrgg_ctx`. -/
structure DeviceTable where
  devices : Nat → Option Nat
  devCount : Nat

namespace DeviceTable

/-- The slot that phase D of `open_path` looks for: the first empty one. -/
def free (t : DeviceTable) : Option Nat :=
  (List.range maxDevices).find? fun i => (t.devices i).isNone

/-- Phase D of `open_path`: the slot that the device gets, and the table with it. -/
def register (t : DeviceTable) (dev : Nat) : Option (Nat × DeviceTable) :=
  t.free.map fun slot =>
    (slot,
      { devices := Function.update t.devices slot (some dev)
        devCount := if slot ≥ t.devCount then slot + 1 else t.devCount })

/-- The section of `close`. -/
def unregister (t : DeviceTable) (dev : Nat) : DeviceTable :=
  match (List.range t.devCount).find? fun i => t.devices i = some dev with
  | some slot => { t with devices := Function.update t.devices slot none }
  | none => t

/-- `pending` in `destroy`. -/
def pending (t : DeviceTable) : List Nat := (List.range t.devCount).filterMap t.devices

/-- The section of `destroy`. -/
def clear (t : DeviceTable) : DeviceTable :=
  { t with devices := fun i => if i < t.devCount then none else t.devices i }

end DeviceTable

/-- What is at an address: no device, one in `open_path` before or after a failed registration, one
that `open_path` has returned, or one in `close`. -/
inductive Life where
  | absent
  | opening
  | rejected
  | returned
  | closing
deriving DecidableEq, Repr

/-- A context, with `identity.slot_index` of the device at each address and the number of times it
was closed. -/
structure Registry where
  table : DeviceTable
  slotIndex : Nat → Nat
  life : Nat → Life
  closes : Nat → Nat

inductive RegistryStep where
  | alloc (dev : Nat)
  | fail (dev : Nat)
  | register (dev : Nat)
  | rollback (dev : Nat)
  | close (dev : Nat)
  | free (dev : Nat)
deriving DecidableEq, Repr

namespace Registry

def setLife (s : Registry) (dev : Nat) (life : Life) : Registry :=
  { s with life := Function.update s.life dev life }

/-- The allocation of a device by `open_path`. -/
def alloc (s : Registry) (dev : Nat) : Registry :=
  { s.setLife dev .opening with
    slotIndex := Function.update s.slotIndex dev 0
    closes := Function.update s.closes dev 0 }

/-- Phase D of `open_path`. -/
def register (s : Registry) (dev : Nat) : Registry :=
  match s.table.register dev with
  | none => s.setLife dev .rejected
  | some (slot, table) =>
    { s.setLife dev .returned with table, slotIndex := Function.update s.slotIndex dev slot }

/-- The section of `close`. -/
def unregister (s : Registry) (dev : Nat) : Registry :=
  { s.setLife dev .closing with
    table := s.table.unregister dev
    closes := Function.update s.closes dev (s.closes dev + 1) }

/-- A step of a thread in `open_path`, whose phases A to C may fail, or in `close`. -/
def step (s : Registry) : RegistryStep → Option Registry
  | .alloc dev => if s.life dev = .absent then some (s.alloc dev) else none
  | .fail dev => if s.life dev = .opening then some (s.setLife dev .absent) else none
  | .register dev => if s.life dev = .opening then some (s.register dev) else none
  | .rollback dev => if s.life dev = .rejected then some (s.setLife dev .absent) else none
  | .close dev => if s.life dev = .returned then some (s.unregister dev) else none
  | .free dev => if s.life dev = .closing then some (s.setLife dev .absent) else none

/-- `close` of one device that `destroy` has found. -/
def closePending (s : Registry) (dev : Nat) : Registry := (s.unregister dev).setLife dev .absent

/-- `destroy`, when nobody else is in a call. -/
def destroy (s : Registry) : Registry :=
  s.table.pending.foldl closePending { s with table := s.table.clear }

/-- `sdr::create`. -/
def created : Registry where
  table := ⟨fun _ => none, 0⟩
  slotIndex _ := 0
  life _ := .absent
  closes _ := 0

/-- The device has not been released. -/
def Live (s : Registry) (dev : Nat) : Prop := s.life dev ≠ .absent

structure Inv (s : Registry) : Prop where
  slot : ∀ i dev, s.table.devices i = some dev →
    s.life dev = .returned ∧ s.slotIndex dev = i ∧ i < s.table.devCount
  count : s.table.devCount ≤ maxDevices
  held : ∀ dev, s.life dev = .returned → s.table.devices (s.slotIndex dev) = some dev
  unclosed : ∀ dev, s.life dev = .opening ∨ s.life dev = .returned → s.closes dev = 0

end Registry

/-! ### The table -/

namespace DeviceTable

theorem free_spec {t : DeviceTable} {slot : Nat} (h : t.free = some slot) :
    slot < maxDevices ∧ t.devices slot = none := by
  have hmem := List.mem_of_find?_eq_some h
  have hfound := List.find?_some h
  exact ⟨List.mem_range.mp hmem, Option.isNone_iff_eq_none.mp hfound⟩

theorem free_eq_none {t : DeviceTable} : t.free = none ↔ ∀ i < maxDevices, t.devices i ≠ none := by
  simp [free, List.find?_eq_none]

/-- `unregister` empties the slot below `dev_count` that holds the device. -/
theorem unregister_eq {t : DeviceTable} {dev slot : Nat} (hslot : t.devices slot = some dev)
    (hunique : ∀ i, t.devices i = some dev → i = slot) (hlt : slot < t.devCount) :
    t.unregister dev = { t with devices := Function.update t.devices slot none } := by
  unfold unregister
  split
  · rename_i i hfind
    have hi : t.devices i = some dev := by simpa using List.find?_some hfind
    rw [hunique i hi]
  · rename_i hnone
    rw [List.find?_eq_none] at hnone
    exact absurd hslot (by simpa using hnone slot (List.mem_range.mpr hlt))

end DeviceTable

/-! ### One step -/

namespace Registry

variable {s t : Registry}

theorem created_inv : created.Inv where
  slot _ _ h := nomatch h
  count := Nat.zero_le _
  held _ h := nomatch h
  unclosed _ _ := rfl

theorem Inv.setLife (h : s.Inv) {dev : Nat} {life : Life} (hold : s.life dev ≠ .returned)
    (hnew : life = .absent ∨ life = .rejected) : (s.setLife dev life).Inv := by
  obtain ⟨slot, count, held, unclosed⟩ := h
  constructor <;> simp only [Registry.setLife, Function.update_apply] <;> grind

theorem Inv.alloc (h : s.Inv) {dev : Nat} (habsent : s.life dev = .absent) : (s.alloc dev).Inv := by
  obtain ⟨slot, count, held, unclosed⟩ := h
  constructor <;> simp only [Registry.alloc, Registry.setLife, Function.update_apply] <;> grind

/-- The registration takes an empty slot of its own. -/
theorem Inv.register (h : s.Inv) {dev : Nat} (hopening : s.life dev = .opening) :
    (s.register dev).Inv := by
  unfold Registry.register
  split
  · exact h.setLife (by simp [hopening]) (.inr rfl)
  · rename_i slot table hreg
    obtain ⟨i, hfree, heq⟩ := Option.map_eq_some_iff.mp hreg
    obtain ⟨rfl, rfl⟩ := Prod.mk.inj heq
    obtain ⟨hlt, hempty⟩ := DeviceTable.free_spec hfree
    obtain ⟨slot, count, held, unclosed⟩ := h
    constructor <;> simp only [Registry.setLife, Function.update_apply] <;> grind

/-- The device that `close` is called on leaves its slot. -/
theorem Inv.unregister (h : s.Inv) {dev : Nat} (hreturned : s.life dev = .returned) :
    (s.unregister dev).Inv := by
  have hslot := h.held dev hreturned
  have htable : s.table.unregister dev =
      { s.table with devices := Function.update s.table.devices (s.slotIndex dev) none } :=
    DeviceTable.unregister_eq hslot (fun i hi => (h.slot i dev hi).2.1.symm)
      (h.slot _ dev hslot).2.2
  obtain ⟨slot, count, held, unclosed⟩ := h
  constructor <;>
    simp only [Registry.unregister, Registry.setLife, htable, Function.update_apply] <;> grind

theorem Inv.step (h : s.Inv) {a : RegistryStep} (hstep : s.step a = some t) : t.Inv := by
  cases a <;> simp only [Registry.step, Option.ite_none_right_eq_some, Option.some_inj] at hstep <;>
    obtain ⟨hlife, rfl⟩ := hstep
  case alloc dev => exact h.alloc hlife
  case register dev => exact h.register hlife
  case close dev => exact h.unregister hlife
  case fail dev => exact h.setLife (by simp [hlife]) (.inl rfl)
  case rollback dev => exact h.setLife (by simp [hlife]) (.inl rfl)
  case free dev => exact h.setLife (by simp [hlife]) (.inl rfl)

/-- The registration fails exactly when all slots are occupied. -/
theorem register_rejected {dev : Nat} (hopening : s.life dev = .opening)
    (hstep : s.step (.register dev) = some t) :
    t.life dev = .rejected ↔ ∀ i < maxDevices, s.table.devices i ≠ none := by
  rw [← DeviceTable.free_eq_none]
  simp only [Registry.step, hopening, ↓reduceIte, Option.some_inj] at hstep
  subst hstep
  unfold Registry.register DeviceTable.register
  cases s.table.free <;> simp [setLife]

/-! ### The last `destroy` -/

/-- The devices that `destroy` finds are those of the table, each once. -/
theorem Inv.mem_pending (h : s.Inv) {dev : Nat} :
    dev ∈ s.table.pending ↔ ∃ i, s.table.devices i = some dev := by
  simp only [DeviceTable.pending, List.mem_filterMap, List.mem_range]
  exact ⟨fun ⟨i, _, hi⟩ => ⟨i, hi⟩, fun ⟨i, hi⟩ => ⟨i, (h.slot i dev hi).2.2, hi⟩⟩

theorem Inv.pending_nodup (h : s.Inv) : s.table.pending.Nodup := by
  refine List.Nodup.filterMap (fun i j dev hi hj => ?_) List.nodup_range
  rw [← (h.slot i dev hi).2.1, ← (h.slot j dev hj).2.1]

theorem foldl_closePending (devs : List Nat) (s : Registry) (dev : Nat) :
    (devs.foldl closePending s).closes dev = s.closes dev + devs.count dev ∧
      (devs.foldl closePending s).life dev = if dev ∈ devs then .absent else s.life dev := by
  induction devs generalizing s with
  | nil => simp
  | cons d devs ih =>
    obtain ⟨hcloses, hlife⟩ := ih (s.closePending d)
    rw [List.foldl_cons, hcloses, hlife]
    simp only [closePending, unregister, setLife, Function.update_apply, List.count_cons,
      List.mem_cons]
    grind

/-- What holds of a context at any time: `destroy` would close each device in the table once. -/
structure Sound (s : Registry) : Prop where
  slot : ∀ i dev, s.table.devices i = some dev →
    s.Live dev ∧ s.slotIndex dev = i ∧ i < s.table.devCount
  count : s.table.devCount ≤ maxDevices
  one : ∀ dev, s.life dev = .returned → ∃! i, s.table.devices i = some dev
  full : ∀ dev t, s.life dev = .opening → s.step (.register dev) = some t →
    (t.life dev = .rejected ↔ ∀ i < maxDevices, s.table.devices i ≠ none)
  destroy : ∀ dev, (∃ i, s.table.devices i = some dev) →
    s.closes dev = 0 ∧ s.destroy.closes dev = 1 ∧ ¬s.destroy.Live dev

theorem Inv.sound (h : s.Inv) : s.Sound where
  slot i dev hi := by
    obtain ⟨hlife, hslot⟩ := h.slot i dev hi
    exact ⟨by simp [Live, hlife], hslot⟩
  count := h.count
  one dev hdev := ⟨s.slotIndex dev, h.held dev hdev, fun i hi => (h.slot i dev hi).2.1.symm⟩
  full dev t hopening hstep := register_rejected hopening hstep
  destroy dev hdev := by
    have hmem := h.mem_pending.mpr hdev
    obtain ⟨i, hi⟩ := hdev
    have hzero := h.unclosed dev (.inr (h.slot i dev hi).1)
    obtain ⟨hcloses, hlife⟩ :=
      foldl_closePending s.table.pending { s with table := s.table.clear } dev
    refine ⟨hzero, ?_, ?_⟩
    · rw [Registry.destroy, hcloses, List.count_eq_one_of_mem h.pending_nodup hmem]
      simp [hzero]
    · simp [Live, Registry.destroy, hlife, hmem]

/-- Whatever the threads in `open_path` and `close` do, the table of the context stays sound. -/
theorem registry_sound {steps : List RegistryStep} (hrun : run step created steps = some s) :
    s.Sound :=
  (run_invariant (fun _ _ _ h hstep => h.step hstep) created_inv hrun).sound

/-- Two devices are opened, the first is closed, and its address and slot are used again. -/
theorem registry_sound_reused : ∃ s,
    run step created [.alloc 1, .alloc 2, .register 2, .register 1, .close 2, .free 2, .alloc 2,
      .register 2] = some s ∧ s.Sound := by
  have hrun : (run step created [.alloc 1, .alloc 2, .register 2, .register 1, .close 2, .free 2,
      .alloc 2, .register 2]).isSome := by decide +kernel
  obtain ⟨s, hs⟩ := Option.isSome_iff_exists.mp hrun
  exact ⟨s, hs, registry_sound hs⟩

end Registry

end Sdrgg.Sdr
