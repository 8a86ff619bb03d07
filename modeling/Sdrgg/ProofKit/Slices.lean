import Mathlib.Algebra.Group.Int.Defs
import Mathlib.Algebra.Group.Nat.Defs
import Mathlib.Data.List.Basic

/-! Packed data: a number of two's complement cut into slices of its bits and put together again, and
a list that is filled place by place. -/

namespace Sdrgg.ProofKit

/-- The range of `n`-bit two's complement. -/
def Fits (n : Nat) (x : Int) : Prop := -(2 ^ n / 2) ≤ x ∧ x < 2 ^ n / 2

instance (n : Nat) (x : Int) : Decidable (Fits n x) :=
  inferInstanceAs (Decidable (_ ∧ _))

section Fits

variable {n : Nat} {x : Int}

theorem Fits.bmod (hn : 0 < n) (h : Fits n x) : x.bmod (2 ^ n) = x := by
  obtain ⟨m, rfl⟩ := Nat.exists_eq_add_one_of_ne_zero (Nat.ne_of_gt hn)
  obtain ⟨hlo, hhi⟩ := h
  have hpow : (2 : Int) ^ (m + 1) = 2 ^ m * 2 := Int.pow_succ _ _
  apply Int.bmod_eq_of_le
  · push_cast
    omega
  · push_cast
    omega

/-- The low bits of a number that fits them are the number. -/
theorem Fits.toInt_setWidth {w : Nat} {b : BitVec w} (hn : 0 < n) (hle : n ≤ w)
    (h : Fits n b.toInt) : (b.setWidth n).toInt = b.toInt := by
  rw [← BitVec.signExtend_eq_setWidth_of_le _ hle, BitVec.toInt_signExtend, Nat.min_eq_left hle,
    h.bmod hn]

end Fits

section Slices

variable {w : Nat}

/-- A shift to the right takes a slice, whatever the sign. -/
theorem setWidth_sshiftRight (b : BitVec w) {i n : Nat} (h : i + n ≤ w) :
    (b.sshiftRight i).setWidth n = b.extractLsb' i n := by
  ext j hj
  have hbit : i + j < w := by omega
  have hw : j < w := by omega
  simp [BitVec.getElem_sshiftRight, hbit, hw]

/-- A mask that covers a slice is not seen in it. -/
theorem setWidth_and_mask (b : BitVec w) {m : BitVec w} {n : Nat}
    (hmask : m.setWidth n = BitVec.allOnes n) : (b &&& m).setWidth n = b.setWidth n := by
  rw [BitVec.setWidth_and, hmask, BitVec.and_allOnes]

/-- The low bits of one number above those of another. -/
theorem setWidth_shiftLeft_or (a b : BitVec w) {i k : Nat} (h : i + k ≤ w) :
    ((a <<< k) ||| (b &&& (BitVec.allOnes k).setWidth w)).setWidth (i + k) =
      a.setWidth i ++ b.setWidth k := by
  ext j hj
  have hw : j < w := by omega
  rcases Nat.lt_or_ge j k with hk | hk
  · simp [BitVec.getElem_append, hk, hw]
  · simp [BitVec.getElem_append, Nat.not_lt.mpr hk, hw]
    grind

theorem two_slices (b : BitVec w) {i j : Nat} (h : i + j ≤ w) :
    b.extractLsb' j i ++ b.extractLsb' 0 j = b.setWidth (i + j) := by
  rw [BitVec.extractLsb'_append_extractLsb'_eq_extractLsb' (Nat.zero_add j).symm,
    BitVec.setWidth_eq_extractLsb' h]

theorem three_slices (b : BitVec w) {i j k : Nat} (h : i + j + k ≤ w) :
    b.extractLsb' (k + j) i ++ b.extractLsb' k j ++ b.extractLsb' 0 k = b.setWidth (i + j + k) := by
  rw [BitVec.extractLsb'_append_extractLsb'_eq_extractLsb' rfl, two_slices b h]

end Slices

/-- A list that is assigned each of its places in order. -/
theorem foldl_set_range {α : Type*} (d : α) {entries : List (Nat × α)} :
    ∀ {pre : List α}, entries.map Prod.fst = List.range' pre.length entries.length →
      entries.foldl (fun l entry => l.set entry.1 entry.2)
        (pre ++ List.replicate entries.length d) = pre ++ entries.map Prod.snd := by
  induction entries with
  | nil => simp
  | cons entry entries ih =>
    intro pre h
    obtain ⟨hfirst, hrest⟩ := List.cons_eq_cons.mp h
    have hset : (pre ++ List.replicate (entries.length + 1) d).set entry.1 entry.2 =
        (pre ++ [entry.2]) ++ List.replicate entries.length d := by
      rw [hfirst, List.replicate_succ, List.set_append_right _ _ (Nat.le_refl _), Nat.sub_self]
      simp
    have hpre := @ih (pre ++ [entry.2]) (by simpa using hrest)
    simpa [hset] using hpre

end Sdrgg.ProofKit
