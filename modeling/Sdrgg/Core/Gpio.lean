import Sdrgg.Core.Rejected

/-! The GPIO pins under any pattern of transfers that fail: which bits of the registers of the pins
an update changes, and whether what it writes depends on bytes that the code has not set. -/

namespace Sdrgg.Sdr

open ProofKit Usb Rtl

/-- The outputs, the output enables and the directions of the pins: `GPO`, `GPOE` and `GPD`. -/
def gpioRegs : List UInt16 := [0x3001, 0x3003, 0x3004]

/-- The system registers after the transfers of a log, when they were `g` before the first. -/
def systemAfter (g : UInt16 → UInt8) : Log → UInt16 → UInt8
  | [] => g
  | (.write value index data, .done _) :: log =>
    if index = 0x0210 then Function.update (systemAfter g log) value (data.headD 0)
    else systemAfter g log
  | _ :: log => systemAfter g log

/-- Registers that held `g` before the first transfer, behind a bus on which the transfers fail that
`fails` says. -/
def gpioEnv (g : UInt16 → UInt8) (fails : Nat → Option Errno) (stack : Log → Nat → UInt8) : Env where
  kernel log t :=
    match fails log.length, t with
    | some errno, _ => .fail errno
    | none, .read value index _ => .done [if index = 0x0200 then systemAfter g log value else 0]
    | none, _ => .done []
  stack

/-- The two bytes differ in the bit of the pin only. -/
def SameBut (gpio : UInt8) (a b : UInt8) : Prop :=
  ∀ i < 8, i ≠ gpio.toNat → a.toNat.testBit i = b.toNat.testBit i

/-- An update of a pin that starts in `w` changes no other bit of the registers of the pins, and the
transfers that it makes do not depend on bytes that the code has not set. -/
structure TouchesOnePin (g : UInt16 → UInt8) (fails : Nat → Option Errno) (gpio : UInt8)
    (update : DevM Unit) (w : World) : Prop where
  others : ∀ stack, ∀ addr ∈ gpioRegs,
    SameBut gpio (systemAfter g (update (gpioEnv g fails stack) w).2.log addr)
      (systemAfter g w.log addr)
  defined : ∀ stack stack', (update (gpioEnv g fails stack) w).2.log.map Prod.fst =
    (update (gpioEnv g fails stack') w).2.log.map Prod.fst

/-! ### Changes of one bit -/

section Bits

variable {gpio : UInt8} (hgpio : gpio < 8)

include hgpio

theorem testBit_mask {i : Nat} (hi : i < 8) (hne : i ≠ gpio.toNat) :
    ((1 : UInt8) <<< gpio).toNat.testBit i = false := by
  have hall : ∀ k < 8, ∀ i < 8, i ≠ k → ((1 : UInt8) <<< UInt8.ofNat k).toNat.testBit i = false := by
    decide
  have hk := UInt8.lt_iff_toNat_lt.mp hgpio
  simpa using hall gpio.toNat hk i hi hne

theorem sameBut_or (r : UInt8) : SameBut gpio (r ||| (1 <<< gpio)) r := by
  intro i hi hne
  rw [UInt8.toNat_or, Nat.testBit_or, testBit_mask hgpio hi hne, Bool.or_false]

theorem sameBut_and (r : UInt8) : SameBut gpio (r &&& ~~~(1 <<< gpio)) r := by
  intro i hi hne
  have hmask := testBit_mask hgpio hi hne
  change (r.toBitVec &&& ~~~(1 <<< gpio : UInt8).toBitVec).getLsbD i = r.toBitVec.getLsbD i
  have hmask : (1 <<< gpio : UInt8).toBitVec.getLsbD i = false := hmask
  rw [BitVec.getLsbD_and, BitVec.getLsbD_not, hmask]
  simp [hi]

end Bits

theorem SameBut.symm {gpio a b : UInt8} (h : SameBut gpio a b) : SameBut gpio b a :=
  fun i hi hne => (h i hi hne).symm

theorem SameBut.trans {gpio a b c : UInt8} (h : SameBut gpio a b) (h' : SameBut gpio b c) :
    SameBut gpio a c :=
  fun i hi hne => (h i hi hne).trans (h' i hi hne)

theorem SameBut.refl (gpio a : UInt8) : SameBut gpio a a := fun _ _ _ => rfl

/-- A register that is written to with a change of one bit, or not at all. -/
theorem sameBut_update {gpio r : UInt8} {regs : UInt16 → UInt8} {addr : UInt16} {written : Prop}
    [Decidable written] (h : written → SameBut gpio r (regs addr)) (a : UInt16) :
    SameBut gpio ((if written then Function.update regs addr r else regs) a) (regs a) := by
  split
  · rename_i hwritten
    by_cases heq : a = addr
    · rw [heq, Function.update_self]
      exact h hwritten
    · rw [Function.update_of_ne heq]
      exact .refl _ _
  · exact .refl _ _

theorem not_sameBut_ones (gpio : UInt8) : ¬SameBut gpio 0 0xFF := by
  intro h
  by_cases hzero : gpio.toNat = 0
  · exact absurd (h 1 (by decide) (by omega)) (by decide)
  · exact absurd (h 0 (by decide) (Ne.symm hzero)) (by decide)

/-- A change of one bit of two bytes that differ in the others gives two bytes. -/
theorem changed_ne {gpio : UInt8} {change : UInt8 → UInt8}
    (hchange : ∀ r, SameBut gpio (change r) r) : change 0 ≠ change 0xFF := fun h =>
  not_sameBut_ones gpio (((hchange 0).symm.trans (by rw [h]; exact .refl _ _)).trans (hchange 0xFF))

/-! ### The updates -/

section Updates

variable {g : UInt16 → UInt8} {fails : Nat → Option Errno} {stack : Log → Nat → UInt8} {w : World}

/-- What an update of a system register finds in `r` after its read. -/
def readBack (g : UInt16 → UInt8) (fails : Nat → Option Errno) (w : World) (addr : UInt16)
    (r : UInt8) : UInt8 :=
  if fails w.log.length = none then systemAfter g w.log addr else r

/-- An update makes two transfers, and the second one decides on the register. -/
theorem updateSystem_gpio (addr : UInt16) (r : UInt8) (change : UInt8 → UInt8) :
    ∃ u, updateSystem addr r change (gpioEnv g fails stack) w = (.ok (readBack g fails w addr r), u) ∧
      u.log.length = w.log.length + 2 ∧
      u.log.map Prod.fst =
        .write addr 0x0210 [change (readBack g fails w addr r)] :: .read addr 0x0200 1 ::
          w.log.map Prod.fst ∧
      systemAfter g u.log =
        if fails (w.log.length + 1) = none then
          Function.update (systemAfter g w.log) addr (change (readBack g fails w addr r))
        else systemAfter g w.log := by
  obtain ⟨u, hrun, hlog⟩ := @updateSystem_run (gpioEnv g fails stack) addr r change w
  have hread : byteRead r ((gpioEnv g fails stack).kernel w.log (.read addr 0x0200 1)) =
      readBack g fails w addr r := by
    simp only [gpioEnv, readBack]
    cases fails w.log.length <;> rfl
  rw [hread] at hrun hlog
  refine ⟨u, hrun, by rw [hlog]; rfl, by rw [hlog]; rfl, ?_⟩
  rw [hlog]
  simp only [gpioEnv, List.length_cons]
  cases fails (w.log.length + 1) with
  | none =>
    simp only [systemAfter, if_true, List.headD_cons]
  | some errno =>
    simp only [systemAfter, reduceCtorEq, if_false]

/-- What `set_gpio_bit` makes of the outputs. -/
def outputsWith (gpio : UInt8) (val : Bool) (r : UInt8) : UInt8 :=
  if val then r ||| (1 <<< gpio) else r &&& ~~~(1 <<< gpio)

/-- `set_gpio_bit` makes the update of the outputs. -/
theorem setGpioBit_gpio (gpio : UInt8) (val : Bool) (stack : Log → Nat → UInt8) : ∃ u,
    (setGpioBit gpio val (gpioEnv g fails stack) w).2 = u ∧
    u.log.map Prod.fst =
      .write 0x3001 0x0210 [outputsWith gpio val (readBack g fails w 0x3001 (stack w.log 0))] ::
        .read 0x3001 0x0200 1 :: w.log.map Prod.fst ∧
    systemAfter g u.log = if fails (w.log.length + 1) = none then
      Function.update (systemAfter g w.log) 0x3001
        (outputsWith gpio val (readBack g fails w 0x3001 (stack w.log 0)))
      else systemAfter g w.log := by
  obtain ⟨u, hu, -, htransfers, hafter⟩ :=
    @updateSystem_gpio g fails stack w 0x3001 (stack w.log 0) (outputsWith gpio val)
  have hset : setGpioBit gpio val (gpioEnv g fails stack) w = (.ok (), u) :=
    (Act.bind_of_ok (uninitialised_apply 1 _ w)).trans (Act.bind_of_ok hu)
  exact ⟨u, congrArg Prod.snd hset, htransfers, hafter⟩

/-- `set_gpio_output` makes the updates of the directions and of the enables. -/
theorem setGpioOutput_gpio (gpio : UInt8) (stack : Log → Nat → UInt8) : ∃ u v,
    (setGpioOutput gpio (gpioEnv g fails stack) w).2 = v ∧
    u.log.length = w.log.length + 2 ∧
    v.log.map Prod.fst =
      .write 0x3003 0x0210 [readBack g fails u 0x3003 (readBack g fails w 0x3004 (stack w.log 0)) |||
        (1 <<< gpio)] :: .read 0x3003 0x0200 1 ::
      .write 0x3004 0x0210 [readBack g fails w 0x3004 (stack w.log 0) &&& ~~~(1 <<< gpio)] ::
        .read 0x3004 0x0200 1 :: w.log.map Prod.fst ∧
    systemAfter g u.log = (if fails (w.log.length + 1) = none then
      Function.update (systemAfter g w.log) 0x3004
        (readBack g fails w 0x3004 (stack w.log 0) &&& ~~~(1 <<< gpio)) else systemAfter g w.log) ∧
    systemAfter g v.log = if fails (w.log.length + 3) = none then
      Function.update (systemAfter g u.log) 0x3003
        (readBack g fails u 0x3003 (readBack g fails w 0x3004 (stack w.log 0)) ||| (1 <<< gpio))
      else systemAfter g u.log := by
  obtain ⟨u, hu, hlength, htransfers, hafter⟩ := @updateSystem_gpio g fails stack w 0x3004
    (stack w.log 0) fun r => r &&& ~~~(1 <<< gpio)
  obtain ⟨v, hv, -, htransfers', hafter'⟩ := @updateSystem_gpio g fails stack u 0x3003
    (readBack g fails w 0x3004 (stack w.log 0)) fun r => r ||| (1 <<< gpio)
  have hset : setGpioOutput gpio (gpioEnv g fails stack) w = (.ok (), v) := by
    refine (Act.bind_of_ok (uninitialised_apply 1 _ w)).trans ?_
    exact (Act.bind_of_ok hu).trans (Act.bind_of_ok hv)
  rw [htransfers] at htransfers'
  rw [hlength] at hafter'
  exact ⟨u, v, congrArg Prod.snd hset, hlength, htransfers', hafter, hafter'⟩

variable {gpio : UInt8} (hgpio : gpio < 8)

include hgpio

/-- `set_gpio_bit` touches one pin exactly when its read succeeds. -/
theorem setGpioBit_touches_iff (val : Bool) :
    TouchesOnePin g fails gpio (setGpioBit gpio val) w ↔ fails w.log.length = none := by
  have hchange (r : UInt8) : SameBut gpio (outputsWith gpio val r) r := by
    cases val
    · exact sameBut_and hgpio r
    · exact sameBut_or hgpio r
  constructor
  · intro h
    by_contra hfails
    obtain ⟨u, hu, htransfers, -⟩ := @setGpioBit_gpio g fails w gpio val fun _ _ => 0
    obtain ⟨v, hv, htransfers', -⟩ := @setGpioBit_gpio g fails w gpio val fun _ _ => 0xFF
    have heq := h.defined (fun _ _ => 0) fun _ _ => 0xFF
    rw [hu, hv, htransfers, htransfers', readBack, readBack, if_neg hfails, if_neg hfails] at heq
    have hbytes := (List.cons.inj heq).1
    injection hbytes with _ _ hbytes
    exact changed_ne hchange (List.cons.inj hbytes).1
  · intro hfails
    have hread (r : UInt8) : readBack g fails w 0x3001 r = systemAfter g w.log 0x3001 :=
      if_pos hfails
    refine ⟨fun stack addr haddr => ?_, fun stack stack' => ?_⟩
    · obtain ⟨u, hu, -, hafter⟩ := @setGpioBit_gpio g fails w gpio val stack
      rw [hu, hafter, hread]
      exact sameBut_update (fun _ => hchange _) addr
    · obtain ⟨u, hu, htransfers, -⟩ := @setGpioBit_gpio g fails w gpio val stack
      obtain ⟨v, hv, htransfers', -⟩ := @setGpioBit_gpio g fails w gpio val stack'
      rw [hu, hv, htransfers, htransfers', hread, hread]

/-- `set_gpio_output` touches one pin exactly when the directions are read, and the enables are read,
not written, or the same as the directions but for the pin. -/
theorem setGpioOutput_touches_iff :
    TouchesOnePin g fails gpio (setGpioOutput gpio) w ↔
      fails w.log.length = none ∧
        (fails (w.log.length + 2) = none ∨ fails (w.log.length + 3) ≠ none ∨
          SameBut gpio (systemAfter g w.log 0x3004) (systemAfter g w.log 0x3003)) := by
  constructor
  · intro h
    have hfirst : fails w.log.length = none := by
      by_contra hfails
      obtain ⟨u, v, hv, -, htransfers, -⟩ := @setGpioOutput_gpio g fails w gpio fun _ _ => 0
      obtain ⟨u', v', hv', -, htransfers', -⟩ := @setGpioOutput_gpio g fails w gpio fun _ _ => 0xFF
      have heq := h.defined (fun _ _ => 0) fun _ _ => 0xFF
      rw [hv, hv', htransfers, htransfers'] at heq
      have hbytes := (List.cons.inj (List.cons.inj (List.cons.inj heq).2).2).1
      injection hbytes with _ _ hbytes
      have hbyte := (List.cons.inj hbytes).1
      rw [readBack, readBack, if_neg hfails, if_neg hfails] at hbyte
      exact changed_ne (sameBut_and hgpio) hbyte
    refine ⟨hfirst, ?_⟩
    by_contra hnone
    obtain ⟨hread, hwrite, hdiffer⟩ := not_or.mp hnone |>.imp_right not_or.mp
    obtain ⟨u, v, hv, hlength, -, hu, hafter⟩ := @setGpioOutput_gpio g fails w gpio fun _ _ => 0
    have hothers := h.others (fun _ _ => 0) 0x3003 (by decide)
    rw [hv, hafter, if_pos (not_not.mp hwrite), Function.update_self, readBack, hlength,
      if_neg hread, readBack, if_pos hfirst] at hothers
    exact hdiffer ((sameBut_or hgpio _).symm.trans hothers)
  · rintro ⟨hfirst, hsecond⟩
    have hread (r : UInt8) : readBack g fails w 0x3004 r = systemAfter g w.log 0x3004 :=
      if_pos hfirst
    refine ⟨fun stack addr haddr => ?_, fun stack stack' => ?_⟩
    · obtain ⟨u, v, hv, hlength, -, hu, hafter⟩ := @setGpioOutput_gpio g fails w gpio stack
      rw [hread] at hu hafter
      -- the directions
      have hdirections (a : UInt16) : SameBut gpio (systemAfter g u.log a) (systemAfter g w.log a) := by
        rw [hu]
        exact sameBut_update (fun _ => sameBut_and hgpio _) a
      -- the enables
      have henables (hwritten : fails (w.log.length + 3) = none) :
          SameBut gpio (readBack g fails u 0x3003 (systemAfter g w.log 0x3004))
            (systemAfter g u.log 0x3003) := by
        rw [readBack, hlength]
        split
        · exact .refl _ _
        · rename_i hunread
          obtain hsecond | hsecond | hsame := hsecond
          · exact absurd hsecond hunread
          · exact absurd hwritten hsecond
          · exact hsame.trans (hdirections 0x3003).symm
      refine .trans ?_ (hdirections addr)
      rw [hv, hafter]
      exact sameBut_update (fun hwritten => (sameBut_or hgpio _).trans (henables hwritten)) addr
    · obtain ⟨u, v, hv, hlength, htransfers, hu, -⟩ := @setGpioOutput_gpio g fails w gpio stack
      obtain ⟨u', v', hv', hlength', htransfers', hu', -⟩ :=
        @setGpioOutput_gpio g fails w gpio stack'
      rw [hread] at hu hu' htransfers htransfers'
      have hsame : systemAfter g u.log = systemAfter g u'.log := by rw [hu, hu']
      rw [hv, hv', htransfers, htransfers', readBack, readBack, hlength, hlength', hsame]

end Updates

/-- For every pin and every pattern of transfers that fail, an update touches one pin exactly under
these conditions. -/
theorem gpio_touches_one_pin {gpio : UInt8} (hgpio : gpio < 8) (g : UInt16 → UInt8)
    (fails : Nat → Option Errno) (val : Bool) (w : World) :
    (TouchesOnePin g fails gpio (setGpioBit gpio val) w ↔ fails w.log.length = none) ∧
    (TouchesOnePin g fails gpio (setGpioOutput gpio) w ↔
      fails w.log.length = none ∧
        (fails (w.log.length + 2) = none ∨ fails (w.log.length + 3) ≠ none ∨
          SameBut gpio (systemAfter g w.log 0x3004) (systemAfter g w.log 0x3003))) :=
  ⟨setGpioBit_touches_iff hgpio val, setGpioOutput_touches_iff hgpio⟩

/-- The pin of the band switch, when no transfer fails. -/
theorem gpio_touches_band :
    TouchesOnePin (fun _ => 0x81) (fun _ => none) 6 (setGpioBit 6 true) openedFc0012 ∧
    TouchesOnePin (fun _ => 0x81) (fun _ => none) 6 (setGpioOutput 6) openedFc0012 := by
  obtain ⟨hbit, houtput⟩ :=
    @gpio_touches_one_pin 6 (by decide) (fun _ => 0x81) (fun _ => none) true openedFc0012
  exact ⟨hbit.mpr rfl, houtput.mpr ⟨rfl, .inl rfl⟩⟩

/-- The read of the outputs fails, and bits 0 and 7 are cleared with the band switch. -/
theorem gpio_touches_others :
    systemAfter (fun _ => 0x81) openedFc0012.log 0x3001 = 0x81 ∧
    systemAfter (fun _ => 0x81) (setGpioBit 6 true (gpioEnv (fun _ => 0x81)
      (fun k => if k = 0 then some .other else none) fun _ _ => 0) openedFc0012).2.log 0x3001 =
        0x40 ∧
    ¬SameBut 6 0x40 0x81 := by
  refine ⟨rfl, by decide +kernel, fun h => ?_⟩
  exact absurd (h 0 (by decide) (by decide)) (by decide)

end Sdrgg.Sdr
