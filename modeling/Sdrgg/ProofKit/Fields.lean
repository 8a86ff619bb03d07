import Mathlib.Data.List.Pairwise
import Mathlib.Data.List.Perm.Basic
import Mathlib.Logic.Function.Basic

/-! Files of byte registers that are written through masks: what a list of writes leaves alone, what
it determines, and when two lists may be exchanged. -/

namespace Sdrgg.ProofKit

variable {ι : Type*} [DecidableEq ι]

/-- The bits of a byte. -/
def bit (b : UInt8) (k : Nat) : Bool := b.toBitVec.getLsbD k

theorem bit_ext {a b : UInt8} (h : ∀ k, bit a k = bit b k) : a = b :=
  UInt8.toBitVec_inj.mp (BitVec.eq_of_getLsbD_eq fun k _ => h k)

@[simp] theorem bit_and (a b : UInt8) (k : Nat) : bit (a &&& b) k = (bit a k && bit b k) := by
  simp [bit]

@[simp] theorem bit_or (a b : UInt8) (k : Nat) : bit (a ||| b) k = (bit a k || bit b k) := by
  simp [bit]

@[simp] theorem bit_zero (k : Nat) : bit 0 k = false := by
  simp [bit]

theorem bit_lt {b : UInt8} {k : Nat} (h : bit b k = true) : k < 8 := by
  rcases Nat.lt_or_ge k 8 with hk | hk
  · exact hk
  · rw [bit, BitVec.getLsbD_of_ge _ _ hk] at h
    cases h

/-- The bits of `val` in `mask` and those of `cur` outside. -/
def merge (mask cur val : UInt8) : UInt8 := (cur &&& ~~~mask) ||| (val &&& mask)

theorem bit_merge (mask cur val : UInt8) (k : Nat) :
    bit (merge mask cur val) k = if bit mask k then bit val k else bit cur k := by
  have hnot : bit (~~~mask) k = (decide (k < 8) && !bit mask k) := by
    simp [bit]
  rw [merge, bit_or, bit_and, bit_and, hnot]
  cases hm : bit mask k with
  | true => simp
  | false =>
    cases hc : bit cur k with
    | true => simp [bit_lt hc]
    | false => simp

theorem and_eq_zero_iff {a b : UInt8} : a &&& b = 0 ↔ ∀ k, bit a k = true → bit b k = false := by
  constructor
  · intro h k ha
    have hk := congrArg (bit · k) h
    simpa [ha] using hk
  · intro h
    refine bit_ext fun k => ?_
    rw [bit_and, bit_zero]
    cases ha : bit a k with
    | true => rw [h k ha]; rfl
    | false => rfl

/-- A write of the bits in a mask of a register. -/
structure FieldWrite (ι : Type*) where
  place : ι
  mask : UInt8
  val : UInt8
deriving DecidableEq, Repr

def FieldWrite.apply (w : FieldWrite ι) (file : ι → UInt8) : ι → UInt8 :=
  Function.update file w.place (merge w.mask (file w.place) w.val)

/-- The file after the writes of a list, one after the other. -/
def applyAll (ws : List (FieldWrite ι)) (file : ι → UInt8) : ι → UInt8 :=
  ws.foldl (fun file w => w.apply file) file

@[simp] theorem applyAll_nil (file : ι → UInt8) : applyAll [] file = file := rfl

@[simp] theorem applyAll_cons (w : FieldWrite ι) (ws : List (FieldWrite ι)) (file : ι → UInt8) :
    applyAll (w :: ws) file = applyAll ws (w.apply file) := rfl

theorem applyAll_append (ws vs : List (FieldWrite ι)) (file : ι → UInt8) :
    applyAll (ws ++ vs) file = applyAll vs (applyAll ws file) :=
  List.foldl_append

/-- What the writes leave in a bit, if they reach it. -/
def lastBit (i : ι) (k : Nat) : List (FieldWrite ι) → Option Bool
  | [] => none
  | w :: ws => (lastBit i k ws).or (if w.place = i ∧ bit w.mask k then some (bit w.val k) else none)

/-- The bits of a register that the writes reach. -/
def touched (i : ι) : List (FieldWrite ι) → UInt8
  | [] => 0
  | w :: ws => (if w.place = i then w.mask else 0) ||| touched i ws

/-- The write without its value. -/
def FieldWrite.blank (w : FieldWrite ι) : FieldWrite ι := { w with val := 0 }

/-- What the writes reach does not depend on their values. -/
theorem touched_blank (i : ι) (ws : List (FieldWrite ι)) :
    touched i (ws.map FieldWrite.blank) = touched i ws := by
  induction ws with
  | nil => rfl
  | cons w ws ih =>
    rw [List.map_cons, touched, touched, ih]
    rfl

theorem bit_touched (ws : List (FieldWrite ι)) (i : ι) (k : Nat) :
    bit (touched i ws) k = (lastBit i k ws).isSome := by
  induction ws with
  | nil => exact bit_zero k
  | cons w ws ih =>
    rw [touched, lastBit, bit_or, ih, Option.isSome_or, Bool.or_comm]
    congr 1
    by_cases hplace : w.place = i
    · cases hm : bit w.mask k <;> simp [hplace, hm]
    · simp [hplace]

/-- A bit that one of the lists reaches is reached by them all together. -/
theorem lastBit_isSome_flatten {i : ι} {k : Nat} {ws : List (FieldWrite ι)}
    {l : List (List (FieldWrite ι))} (hmem : ws ∈ l) (h : (lastBit i k ws).isSome) :
    (lastBit i k l.flatten).isSome := by
  have happend (vs vs' : List (FieldWrite ι)) :
      (lastBit i k (vs ++ vs')).isSome = ((lastBit i k vs).isSome || (lastBit i k vs').isSome) := by
    induction vs with
    | nil => rfl
    | cons v vs ih =>
      rw [List.cons_append, lastBit, lastBit, Option.isSome_or, Option.isSome_or, ih]
      grind
  induction l with
  | nil => cases hmem
  | cons vs l ih =>
    rw [List.flatten_cons, happend, Bool.or_eq_true]
    obtain rfl | hrest := List.mem_cons.mp hmem
    · exact .inl h
    · exact .inr (ih hrest)

theorem bit_apply (w : FieldWrite ι) (file : ι → UInt8) (i : ι) (k : Nat) :
    bit (w.apply file i) k =
      (if w.place = i ∧ bit w.mask k then some (bit w.val k) else none).getD (bit (file i) k) := by
  by_cases hplace : w.place = i
  · subst hplace
    rw [FieldWrite.apply, Function.update_self, bit_merge]
    cases hm : bit w.mask k <;> simp
  · rw [FieldWrite.apply, Function.update_of_ne (Ne.symm hplace)]
    simp [hplace]

/-- A bit holds what the writes leave in it, or else what it held before. -/
theorem bit_applyAll (ws : List (FieldWrite ι)) (file : ι → UInt8) (i : ι) (k : Nat) :
    bit (applyAll ws file i) k = (lastBit i k ws).getD (bit (file i) k) := by
  induction ws generalizing file with
  | nil => rfl
  | cons w ws ih =>
    rw [applyAll_cons, ih, bit_apply, lastBit]
    cases lastBit i k ws <;> rfl

/-- Bits that the writes do not reach stay. -/
theorem applyAll_frame {ws : List (FieldWrite ι)} {i : ι} {mask : UInt8}
    (h : touched i ws &&& mask = 0) (file : ι → UInt8) :
    applyAll ws file i &&& mask = file i &&& mask := by
  refine bit_ext fun k => ?_
  rw [bit_and, bit_and, bit_applyAll]
  cases hlast : lastBit i k ws with
  | none => rfl
  | some b =>
    have hreach : bit (touched i ws) k = true := by
      rw [bit_touched, hlast]
      rfl
    rw [and_eq_zero_iff.mp h k hreach, Bool.and_false, Bool.and_false]

/-- A field holds what the last write that reaches it leaves there. -/
theorem applyAll_field {ws : List (FieldWrite ι)} {n : Nat} {w : FieldWrite ι} {mask : UInt8}
    (hw : ws[n]? = some w) (hmask : w.mask &&& mask = mask)
    (hpost : touched w.place (ws.drop (n + 1)) &&& mask = 0) (file : ι → UInt8) :
    applyAll ws file w.place &&& mask = w.val &&& mask := by
  obtain ⟨hn, hget⟩ := List.getElem?_eq_some_iff.mp hw
  have hsplit : ws = ws.take n ++ w :: ws.drop (n + 1) := by
    rw [← hget, List.getElem_cons_drop hn, List.take_append_drop]
  have hlast : applyAll ws file w.place =
      applyAll (ws.drop (n + 1)) (w.apply (applyAll (ws.take n) file)) w.place := by
    rw [← applyAll_cons, ← applyAll_append, ← hsplit]
  rw [hlast, applyAll_frame hpost, FieldWrite.apply, Function.update_self]
  refine bit_ext fun k => ?_
  rw [bit_and, bit_and, bit_merge]
  cases hm : bit mask k with
  | false => rw [Bool.and_false, Bool.and_false]
  | true =>
    have hreach := congrArg (bit · k) hmask
    simp only [bit_and, hm, Bool.and_true] at hreach
    rw [if_pos hreach]

/-- No bit is reached by both lists. -/
def BitsDisjoint (ws vs : List (FieldWrite ι)) : Prop := ∀ i, touched i ws &&& touched i vs = 0

theorem BitsDisjoint.symm {ws vs : List (FieldWrite ι)} (h : BitsDisjoint ws vs) :
    BitsDisjoint vs ws := by
  intro i
  rw [UInt8.and_comm]
  exact h i

instance : Std.Symm (@BitsDisjoint ι _) := ⟨fun _ _ h => h.symm⟩

theorem touched_append (i : ι) (ws vs : List (FieldWrite ι)) :
    touched i (ws ++ vs) = touched i ws ||| touched i vs := by
  induction ws with
  | nil => exact (UInt8.zero_or).symm
  | cons w ws ih => rw [List.cons_append, touched, touched, ih, UInt8.or_assoc]

theorem BitsDisjoint.append {ws vs vs' : List (FieldWrite ι)} (h : BitsDisjoint ws vs)
    (h' : BitsDisjoint ws vs') : BitsDisjoint ws (vs ++ vs') := by
  intro i
  refine and_eq_zero_iff.mpr fun k hk => ?_
  rw [touched_append, bit_or, and_eq_zero_iff.mp (h i) k hk, and_eq_zero_iff.mp (h' i) k hk]
  rfl

theorem touched_of_places {i : ι} {ws : List (FieldWrite ι)} (h : ∀ w ∈ ws, w.place ≠ i) :
    touched i ws = 0 := by
  induction ws with
  | nil => rfl
  | cons w ws ih =>
    obtain ⟨hne, hrest⟩ := List.forall_mem_cons.mp h
    rw [touched, if_neg hne, ih hrest]
    rfl

theorem BitsDisjoint.of_places {ws vs : List (FieldWrite ι)}
    (h : ∀ w ∈ ws, ∀ v ∈ vs, w.place ≠ v.place) : BitsDisjoint ws vs := by
  intro i
  by_cases hreach : ∃ w ∈ ws, w.place = i
  · obtain ⟨w, hw, rfl⟩ := hreach
    rw [touched_of_places fun v hv => (h w hw v hv).symm]
    exact UInt8.and_zero
  · rw [touched_of_places fun w hw hplace => hreach ⟨w, hw, hplace⟩]
    exact UInt8.zero_and

/-- The fields of the writes hold their values. -/
def ReadsBack (ws : List (FieldWrite ι)) (file : ι → UInt8) : Prop :=
  ∀ w ∈ ws, file w.place &&& w.mask = w.val &&& w.mask

theorem bit_touched_of_mem {ws : List (FieldWrite ι)} {w : FieldWrite ι} (h : w ∈ ws) {k : Nat}
    (hk : bit w.mask k = true) : bit (touched w.place ws) k = true := by
  induction ws with
  | nil => cases h
  | cons v ws ih =>
    rw [touched, bit_or, Bool.or_eq_true]
    obtain rfl | h := List.mem_cons.mp h
    · exact .inl (by rw [if_pos rfl]; exact hk)
    · exact .inr (ih h)

/-- Writes of other bits leave the fields. -/
theorem ReadsBack.frame {ws vs : List (FieldWrite ι)} {file : ι → UInt8} (h : ReadsBack vs file)
    (hdisjoint : BitsDisjoint ws vs) : ReadsBack vs (applyAll ws file) := by
  intro v hv
  rw [applyAll_frame _ file]
  · exact h v hv
  · refine and_eq_zero_iff.mpr fun k hk => ?_
    cases hbit : bit v.mask k with
    | false => rfl
    | true =>
      have hfree := and_eq_zero_iff.mp (hdisjoint v.place) k hk
      rw [bit_touched_of_mem hv hbit] at hfree
      cases hfree

/-- The writes reach owned bits only. -/
def Within (owned : ι → UInt8) (ws : List (FieldWrite ι)) : Prop :=
  ∀ w ∈ ws, w.mask &&& ~~~owned w.place = 0

omit [DecidableEq ι] in
theorem Within.append {owned : ι → UInt8} {ws vs : List (FieldWrite ι)} (h : Within owned ws)
    (h' : Within owned vs) : Within owned (ws ++ vs) :=
  fun w hw => (List.mem_append.mp hw).elim (h w) (h' w)

omit [DecidableEq ι] in
theorem Within.of_blank {owned : ι → UInt8} {ws : List (FieldWrite ι)}
    (h : Within owned (ws.map FieldWrite.blank)) : Within owned ws :=
  fun w hw => h w.blank (List.mem_map_of_mem hw)

/-- Bits in a mask that avoids what is owned are not reached. -/
theorem Within.touched_eq_zero {owned : ι → UInt8} {ws : List (FieldWrite ι)} (h : Within owned ws)
    {i : ι} {mask : UInt8} (hmask : mask &&& owned i = 0) : touched i ws &&& mask = 0 := by
  refine and_eq_zero_iff.mpr fun k hk => ?_
  induction ws with
  | nil =>
    rw [touched, bit_zero] at hk
    cases hk
  | cons w ws ih =>
    obtain ⟨hw, hrest⟩ := List.forall_mem_cons.mp h
    rw [touched, bit_or, Bool.or_eq_true] at hk
    obtain hk | hk := hk
    · split at hk
      · rename_i hplace
        subst hplace
        have hfree := and_eq_zero_iff.mp hw k hk
        have howned : bit (owned w.place) k = true := by
          simpa [bit, bit_lt hk] using hfree
        cases hbit : bit mask k with
        | false => rfl
        | true =>
          rw [and_eq_zero_iff.mp hmask k hbit] at howned
          cases howned
      · rw [bit_zero] at hk
        cases hk
    · exact ih hrest hk

theorem Within.frame {owned : ι → UInt8} {ws : List (FieldWrite ι)} (h : Within owned ws) {i : ι}
    {mask : UInt8} (hmask : mask &&& owned i = 0) (file : ι → UInt8) :
    applyAll ws file i &&& mask = file i &&& mask :=
  applyAll_frame (h.touched_eq_zero hmask) file

/-- Fields outside what is owned stay. -/
theorem ReadsBack.of_within {owned : ι → UInt8} {ws vs : List (FieldWrite ι)} {file : ι → UInt8}
    (h : ReadsBack vs file) (hws : Within owned ws)
    (hvs : ∀ v ∈ vs, v.mask &&& owned v.place = 0) : ReadsBack vs (applyAll ws file) := by
  intro v hv
  rw [hws.frame (hvs v hv)]
  exact h v hv

/-- Writes to different places read back. -/
theorem readsBack_applyAll {ws : List (FieldWrite ι)}
    (h : ws.Pairwise fun w v => w.place ≠ v.place) (file : ι → UInt8) :
    ReadsBack ws (applyAll ws file) := by
  induction ws generalizing file with
  | nil => exact fun w hw => (nomatch hw)
  | cons w ws ih =>
    obtain ⟨hplace, hrest⟩ := List.pairwise_cons.mp h
    refine List.forall_mem_cons.mpr ⟨?_, ih hrest _⟩
    have hpost : touched w.place ws = 0 := touched_of_places fun v hv => (hplace v hv).symm
    refine applyAll_field (n := 0) rfl (UInt8.and_self) ?_ file
    rw [List.drop_one, List.tail_cons, hpost, UInt8.zero_and]

theorem applyAll_comm {ws vs : List (FieldWrite ι)} (h : BitsDisjoint ws vs) (file : ι → UInt8) :
    applyAll vs (applyAll ws file) = applyAll ws (applyAll vs file) := by
  funext i
  refine bit_ext fun k => ?_
  simp only [bit_applyAll]
  cases hw : lastBit i k ws with
  | none => rfl
  | some b =>
    have hreach : bit (touched i ws) k = true := by
      rw [bit_touched, hw]
      rfl
    have hfree := and_eq_zero_iff.mp (h i) k hreach
    rw [bit_touched, Option.isSome_eq_false_iff, Option.isNone_iff_eq_none] at hfree
    rw [hfree]
    rfl

/-! ### Files that agree in some bits -/

/-- The files agree in the bits of a mask. -/
def Agree (mask file file' : ι → UInt8) : Prop := ∀ i, file i &&& mask i = file' i &&& mask i

section Agree

variable {mask mask' file file' file'' : ι → UInt8}

section

omit [DecidableEq ι]

theorem Agree.symm (h : Agree mask file file') : Agree mask file' file := fun i => (h i).symm

theorem Agree.trans (h : Agree mask file file') (h' : Agree mask file' file'') :
    Agree mask file file'' :=
  fun i => (h i).trans (h' i)

theorem agree_iff :
    Agree mask file file' ↔ ∀ i k, bit (mask i) k = true → bit (file i) k = bit (file' i) k := by
  constructor
  · intro h i k hk
    have hbit := congrArg (bit · k) (h i)
    simpa [hk] using hbit
  · intro h i
    refine bit_ext fun k => ?_
    rw [bit_and, bit_and]
    cases hk : bit (mask i) k with
    | true => rw [h i k hk]
    | false => rw [Bool.and_false, Bool.and_false]

theorem Agree.or (h : Agree mask file file') (h' : Agree mask' file file') :
    Agree (fun i => mask i ||| mask' i) file file' := by
  refine agree_iff.mpr fun i k hk => ?_
  rw [bit_or, Bool.or_eq_true] at hk
  exact hk.elim (agree_iff.mp h i k) (agree_iff.mp h' i k)

theorem Agree.mono (h : Agree mask' file file') (hmask : ∀ i, mask i &&& ~~~mask' i = 0) :
    Agree mask file file' := by
  refine agree_iff.mpr fun i k hk => agree_iff.mp h i k ?_
  have hfree := and_eq_zero_iff.mp (hmask i) k hk
  simpa [bit, bit_lt hk] using hfree

end

/-- Files that agree still do so after the same writes. -/
theorem Agree.applyAll (h : Agree mask file file') (ws : List (FieldWrite ι)) :
    Agree mask (applyAll ws file) (applyAll ws file') := by
  refine agree_iff.mpr fun i k hk => ?_
  rw [bit_applyAll, bit_applyAll, agree_iff.mp h i k hk]

/-- Bits that the writes reach do not depend on the file. -/
theorem agree_of_touched {ws : List (FieldWrite ι)} (h : ∀ i, mask i &&& ~~~touched i ws = 0) :
    Agree mask (applyAll ws file) (applyAll ws file') := by
  refine agree_iff.mpr fun i k hk => ?_
  have hreach : bit (touched i ws) k = true := by
    have hfree := and_eq_zero_iff.mp (h i) k hk
    simpa [bit, bit_lt hk] using hfree
  rw [bit_touched] at hreach
  obtain ⟨b, hb⟩ := Option.isSome_iff_exists.mp hreach
  rw [bit_applyAll, bit_applyAll, hb]
  rfl

theorem Within.agree {owned : ι → UInt8} {ws : List (FieldWrite ι)} (h : Within owned ws)
    (hmask : ∀ i, mask i &&& owned i = 0) : Agree mask (ProofKit.applyAll ws file) file :=
  fun i => h.frame (hmask i) file

end Agree

/-- Lists of writes of which no two reach one bit may be made in any order. -/
theorem applyAll_perm {l l' : List (List (FieldWrite ι))} (hperm : l.Perm l')
    (h : l.Pairwise BitsDisjoint) (file : ι → UInt8) :
    applyAll l.flatten file = applyAll l'.flatten file := by
  have hfold (l : List (List (FieldWrite ι))) (file : ι → UInt8) :
      applyAll l.flatten file = l.foldl (fun file ws => applyAll ws file) file := by
    induction l generalizing file with
    | nil => rfl
    | cons ws l ih => rw [List.flatten_cons, applyAll_append, ih, List.foldl_cons]
  rw [hfold, hfold]
  refine hperm.foldl_eq' (fun ws hws vs hvs file => ?_) file
  by_cases heq : ws = vs
  · rw [heq]
  · exact applyAll_comm (h.forall hws hvs heq) file

end Sdrgg.ProofKit
