import Mathlib.Tactic.Ring
import Mathlib.Tactic.Linarith

/-!
# Serial numbers with a rollover count

A counter is carried on the wire modulo `2*H`; a rollover count beside it
restores the full value.
-/

namespace RsipRtp.Rollover

def extend (H roc seq : ℕ) : ℕ := roc*(2*H)+seq

def rolls (H highest seq : ℕ) : Prop := seq < H ∧ H < highest

instance (H highest seq : ℕ) : Decidable (rolls H highest seq) :=
  inferInstanceAs (Decidable (_ ∧ _))

def nearest (H roc highest seq : ℕ) : ℤ :=
  if highest < H then if highest < seq ∧ H < seq-highest then roc-1 else roc
  else if seq < highest ∧ H < highest-seq then roc+1 else roc

variable {H roc s q d : ℕ}

theorem rolls_iff (hs : s < 2*H) (hd : 1 ≤ d) (hdH : d < H) (hq : q = (s+d) % (2*H)) :
    rolls H s q ↔ 2*H ≤ s+d := by
  unfold rolls
  by_cases h : 2*H ≤ s+d
  · have hq' : q = s+d-2*H := by
      rw [hq, Nat.mod_eq_sub_mod h, Nat.mod_eq_of_lt (by omega)]
    omega
  · rw [Nat.mod_eq_of_lt (by omega)] at hq
    omega

theorem extend_advance (hs : s < 2*H) (hd : 1 ≤ d) (hdH : d < H) (hq : q = (s+d) % (2*H)) :
    extend H (if rolls H s q then roc+1 else roc) q = extend H roc s+d := by
  have hr := rolls_iff hs hd hdH hq
  unfold extend
  by_cases h : 2*H ≤ s+d
  · rw [if_pos (hr.mpr h)]
    rw [Nat.mod_eq_sub_mod h, Nat.mod_eq_of_lt (by omega)] at hq
    have hm : (roc+1)*(2*H) = roc*(2*H)+2*H := by ring
    omega
  · rw [if_neg (fun hc => h (hr.mp hc))]
    rw [Nat.mod_eq_of_lt (by omega)] at hq
    omega

/-- The receiving side finds the rollover count of a value that is less than
`H` away from the highest one. -/
theorem nearest_eq {r : ℕ} (hs : s < 2*H) (hq : q < 2*H) (h1 : extend H r q < extend H roc s+H)
    (h2 : extend H roc s < extend H r q+H) : nearest H roc s q = r := by
  unfold extend at h1 h2
  -- the values are closer than one round, so the counts differ by at most one
  have hlow : r ≤ roc+1 := by
    by_contra hc
    have hm : (roc+2)*(2*H) ≤ r*(2*H) := Nat.mul_le_mul_right _ (by omega)
    have he : (roc+2)*(2*H) = roc*(2*H)+4*H := by ring
    omega
  have hhigh : roc ≤ r+1 := by
    by_contra hc
    have hm : (r+2)*(2*H) ≤ roc*(2*H) := Nat.mul_le_mul_right _ (by omega)
    have he : (r+2)*(2*H) = r*(2*H)+4*H := by ring
    omega
  unfold nearest
  obtain rfl | rfl | rfl : r = roc ∨ r = roc+1 ∨ roc = r+1 := by omega
  · split_ifs <;> omega
  · have he : (roc+1)*(2*H) = roc*(2*H)+2*H := by ring
    split_ifs <;> omega
  · have he : (r+1)*(2*H) = r*(2*H)+2*H := by ring
    split_ifs <;> omega

end RsipRtp.Rollover
