import Mathlib.Algebra.BigOperators.Group.List.Basic
import Mathlib.Algebra.Ring.Int.Defs
import Mathlib.Data.List.Perm.Basic
import Mathlib.Data.Int.Order.Basic

/-!
# Sums that saturate as they go

Numbers are added one after the other and every partial sum is cut to a range
around zero. For numbers of one sign this is the sum cut once.
-/

namespace RsipRtp.SaturatedSum

def clamp (lo hi x : ℤ) : ℤ := max lo (min x hi)

def satAdd (lo hi acc x : ℤ) : ℤ := clamp lo hi (acc+x)

def satSum (lo hi : ℤ) (xs : List ℤ) : ℤ := xs.foldl (satAdd lo hi) 0

def gain (xs : List ℤ) : ℤ := (xs.filter (0 < ·)).sum

def loss (xs : List ℤ) : ℤ := (xs.filter (fun x => !decide (0 < x))).sum

def Balanced (lo hi : ℤ) (xs : List ℤ) : Prop :=
  gain xs = 0 ∨ loss xs = 0 ∨ (lo ≤ loss xs ∧ gain xs ≤ hi)

instance (lo hi : ℤ) (xs : List ℤ) : Decidable (Balanced lo hi xs) :=
  inferInstanceAs (Decidable (_ ∨ _ ∨ _))

theorem gain_cons (x : ℤ) (xs : List ℤ) : gain (x::xs) = max x 0+gain xs := by
  unfold gain
  by_cases hx : 0 < x
  · rw [List.filter_cons_of_pos (by simpa using hx), List.sum_cons, max_eq_left hx.le]
  · rw [List.filter_cons_of_neg (by simpa using hx), max_eq_right (Int.not_lt.mp hx), Int.zero_add]

theorem loss_cons (x : ℤ) (xs : List ℤ) : loss (x::xs) = min x 0+loss xs := by
  unfold loss
  by_cases hx : 0 < x
  · rw [List.filter_cons_of_neg (by simpa using hx), min_eq_right hx.le, Int.zero_add]
  · rw [List.filter_cons_of_pos (by simpa using hx), List.sum_cons, min_eq_left (Int.not_lt.mp hx)]

theorem gain_nonneg (xs : List ℤ) : 0 ≤ gain xs := by
  induction xs with
  | nil => exact le_rfl
  | cons x xs ih =>
    rw [gain_cons]
    omega

theorem loss_nonpos (xs : List ℤ) : loss xs ≤ 0 := by
  induction xs with
  | nil => exact le_rfl
  | cons x xs ih =>
    rw [loss_cons]
    omega

theorem gain_add_loss (xs : List ℤ) : gain xs+loss xs = xs.sum := by
  induction xs with
  | nil => rfl
  | cons x xs ih =>
    rw [gain_cons, loss_cons, List.sum_cons]
    omega

theorem gain_perm {xs ys : List ℤ} (h : xs.Perm ys) : gain xs = gain ys := (h.filter _).sum_eq

theorem loss_perm {xs ys : List ℤ} (h : xs.Perm ys) : loss xs = loss ys := (h.filter _).sum_eq

theorem balanced_perm {lo hi : ℤ} {xs ys : List ℤ} (h : xs.Perm ys) :
    Balanced lo hi xs ↔ Balanced lo hi ys := by
  rw [Balanced, Balanced, gain_perm h, loss_perm h]

section Folds

variable {lo hi : ℤ}

theorem foldl_inside {xs : List ℤ} {acc : ℤ} (hlo : lo ≤ acc+loss xs) (hhi : acc+gain xs ≤ hi) :
    xs.foldl (satAdd lo hi) acc = acc+xs.sum := by
  induction xs generalizing acc with
  | nil => exact (Int.add_zero acc).symm
  | cons x xs ih =>
    have hgain := gain_nonneg xs
    have hloss := loss_nonpos xs
    rw [gain_cons] at hhi
    rw [loss_cons] at hlo
    have hstep : satAdd lo hi acc x = acc+x := by
      rw [satAdd, clamp]
      omega
    rw [List.foldl_cons, hstep, ih (by omega) (by omega), List.sum_cons, Int.add_assoc]

theorem foldl_one_sign {xs : List ℤ} {acc : ℤ} (hsign : gain xs = 0 ∨ loss xs = 0)
    (hlo : lo ≤ acc) (hhi : acc ≤ hi) :
    xs.foldl (satAdd lo hi) acc = clamp lo hi (acc+xs.sum) := by
  induction xs generalizing acc with
  | nil =>
    rw [List.foldl_nil, List.sum_nil, clamp]
    omega
  | cons x xs ih =>
    have hgain := gain_nonneg xs
    have hloss := loss_nonpos xs
    have hsum := gain_add_loss xs
    rw [gain_cons, loss_cons] at hsign
    have hin : lo ≤ satAdd lo hi acc x ∧ satAdd lo hi acc x ≤ hi := by
      rw [satAdd, clamp]
      omega
    rw [List.foldl_cons, ih (by omega) hin.1 hin.2, List.sum_cons, satAdd]
    unfold clamp
    omega

theorem gain_filter_pos (xs : List ℤ) :
    gain (xs.filter (0 < ·)) = gain xs ∧ loss (xs.filter (0 < ·)) = 0 := by
  simp [gain, loss, List.filter_filter]

theorem gain_filter_rest (xs : List ℤ) :
    gain (xs.filter (fun x => !decide (0 < x))) = 0 ∧
      loss (xs.filter (fun x => !decide (0 < x))) = loss xs := by
  simp [gain, loss, List.filter_filter]

theorem satSum_gain_first (hlo : lo ≤ 0) (hhi : 0 ≤ hi) (xs : List ℤ) :
    satSum lo hi (xs.filter (0 < ·)++xs.filter (fun x => !decide (0 < x))) =
      clamp lo hi (clamp lo hi (gain xs)+loss xs) := by
  have hin : lo ≤ clamp lo hi (gain xs) ∧ clamp lo hi (gain xs) ≤ hi := by
    rw [clamp]
    omega
  have hfirst := @foldl_one_sign lo hi (xs.filter (0 < ·)) 0 (.inr (gain_filter_pos xs).2) hlo hhi
  rw [Int.zero_add] at hfirst
  rw [satSum, List.foldl_append, hfirst]
  exact foldl_one_sign (.inl (gain_filter_rest xs).1) hin.1 hin.2

theorem satSum_loss_first (hlo : lo ≤ 0) (hhi : 0 ≤ hi) (xs : List ℤ) :
    satSum lo hi (xs.filter (fun x => !decide (0 < x))++xs.filter (0 < ·)) =
      clamp lo hi (clamp lo hi (loss xs)+gain xs) := by
  have hin : lo ≤ clamp lo hi (loss xs) ∧ clamp lo hi (loss xs) ≤ hi := by
    rw [clamp]
    omega
  have hfirst := @foldl_one_sign lo hi (xs.filter (fun x => !decide (0 < x))) 0
    (.inl (gain_filter_rest xs).1) hlo hhi
  rw [Int.zero_add] at hfirst
  rw [satSum, List.foldl_append, hfirst]
  exact foldl_one_sign (.inr (gain_filter_pos xs).2) hin.1 hin.2

theorem satSum_of_balanced (hlo : lo ≤ 0) (hhi : 0 ≤ hi) {xs : List ℤ} (h : Balanced lo hi xs) :
    satSum lo hi xs = clamp lo hi xs.sum := by
  have hgain := gain_nonneg xs
  have hloss := loss_nonpos xs
  have hsum := gain_add_loss xs
  rcases h with h | h | h
  · rw [satSum, foldl_one_sign (.inl h) hlo hhi, Int.zero_add]
  · rw [satSum, foldl_one_sign (.inr h) hlo hhi, Int.zero_add]
  · rw [satSum, foldl_inside (by omega) (by omega), Int.zero_add, clamp]
    omega

theorem balanced_of_orders (hlo : lo < 0) (hhi : 0 < hi) {xs : List ℤ}
    (hfirst : satSum lo hi (xs.filter (0 < ·)++xs.filter (fun x => !decide (0 < x))) =
      clamp lo hi xs.sum)
    (hlast : satSum lo hi (xs.filter (fun x => !decide (0 < x))++xs.filter (0 < ·)) =
      clamp lo hi xs.sum) : Balanced lo hi xs := by
  have hgain := gain_nonneg xs
  have hloss := loss_nonpos xs
  rw [satSum_gain_first hlo.le hhi.le, ← gain_add_loss] at hfirst
  rw [satSum_loss_first hlo.le hhi.le, ← gain_add_loss] at hlast
  unfold Balanced
  unfold clamp at hfirst hlast
  omega

end Folds

end RsipRtp.SaturatedSum
