import Mathlib.Order.Lattice
import Mathlib.Data.Nat.Notation

/-!
# Larger and smaller words

The maximum and the minimum of two words, read as numbers.
-/

namespace RsipRtp.WordOrder

section
variable {α : Type} [LE α] [DecidableLE α] {f : α → ℕ}

theorem map_max (hf : ∀ {a b}, a ≤ b ↔ f a ≤ f b) (a b : α) :
    f (if a ≤ b then b else a) = max (f a) (f b) := by
  split_ifs with h
  · rw [max_eq_right (hf.mp h)]
  · rw [max_eq_left (not_le.mp (mt hf.mpr h)).le]

theorem map_min (hf : ∀ {a b}, a ≤ b ↔ f a ≤ f b) (a b : α) :
    f (if a ≤ b then a else b) = min (f a) (f b) := by
  split_ifs with h
  · rw [min_eq_left (hf.mp h)]
  · rw [min_eq_right (not_le.mp (mt hf.mpr h)).le]

end

theorem toNat_max32 (a b : UInt32) : (max a b).toNat = max a.toNat b.toNat :=
  map_max UInt32.le_iff_toNat_le a b

theorem toNat_min32 (a b : UInt32) : (min a b).toNat = min a.toNat b.toNat :=
  map_min UInt32.le_iff_toNat_le a b

theorem toNat_max64 (a b : UInt64) : (max a b).toNat = max a.toNat b.toNat :=
  map_max UInt64.le_iff_toNat_le a b

theorem toNat_min64 (a b : UInt64) : (min a b).toNat = min a.toNat b.toNat :=
  map_min UInt64.le_iff_toNat_le a b

end RsipRtp.WordOrder
