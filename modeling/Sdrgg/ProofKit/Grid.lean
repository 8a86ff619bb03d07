import Mathlib.Algebra.Order.Field.Basic
import Mathlib.Algebra.Order.Field.Rat
import Mathlib.Data.Nat.Bitwise

/-! Numbers in registers: the two bytes of a word, and fractions that are within one of zero. -/

namespace Sdrgg.ProofKit

theorem word_bytes (word : UInt16) :
    256 * (word >>> 8).toUInt8.toNat + (word &&& 0xFF).toUInt8.toNat = word.toNat := by
  have hlow : (word &&& 0xFF).toNat = word.toNat % 256 := Nat.and_two_pow_sub_one_eq_mod _ 8
  have hhigh : (word >>> 8).toNat = word.toNat / 256 := by
    simp [Nat.shiftRight_eq_div_pow]
  have hlt := word.toNat_lt
  rw [UInt16.toNat_toUInt8, UInt16.toNat_toUInt8, hlow, hhigh]
  omega

theorem abs_div_le_one {a : Int} {d : Nat} (hd : 0 < d) : |(a : ℚ) / d| ≤ 1 ↔ a.natAbs ≤ d := by
  have hpos : (0 : ℚ) < d := Nat.cast_pos.mpr hd
  rw [abs_div, Nat.abs_cast, div_le_one hpos, ← Int.cast_abs, Int.abs_eq_natAbs]
  exact_mod_cast Iff.rfl

end Sdrgg.ProofKit
