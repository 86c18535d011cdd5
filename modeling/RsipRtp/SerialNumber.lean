import Mathlib.Data.Int.ModEq

/-!
# Full values of wrapped numbers

A counter of `w` bits on the wire stands for many full values.
-/

namespace RsipRtp.SerialNumber

variable {w : ℕ}

def Near (w : ℕ) (base e : ℤ) : Prop := base-2^(w-1) ≤ e ∧ e < base+2^(w-1)

def place (base : ℤ) (u : BitVec w) : ℤ := base+(u-BitVec.ofInt w base).toInt

theorem ofInt_place (base : ℤ) (u : BitVec w) : BitVec.ofInt w (place base u) = u := by
  rw [place, BitVec.ofInt_add, BitVec.ofInt_toInt, BitVec.add_comm, BitVec.sub_add_cancel]

theorem place_ofInt (hw : 0 < w) {base e : ℤ} (h : Near w base e) :
    place base (BitVec.ofInt w e) = e := by
  unfold Near at h
  have hstep : BitVec.ofInt w e-BitVec.ofInt w base = BitVec.ofInt w (e-base) := by
    rw [Int.sub_eq_add_neg, BitVec.ofInt_add, BitVec.ofInt_neg, BitVec.sub_eq_add_neg]
  rw [place, hstep, BitVec.toInt_ofInt_eq_self hw (by omega) (by omega)]
  omega

def highest (base : ℤ) : List (BitVec w) → ℤ
  | [] => base
  | u::us => highest (max base (place base u)) us

def Numbered (base : ℤ) : List (BitVec w) → List ℤ → Prop
  | [], [] => True
  | u::us, e::es => u = BitVec.ofInt w e ∧ Near w base e ∧ Numbered (max base e) us es
  | _, _ => False

theorem highest_eq_max (hw : 0 < w) {base : ℤ} {us : List (BitVec w)} {es : List ℤ}
    (h : Numbered base us es) : highest base us = es.foldl max base := by
  induction us generalizing base es with
  | nil =>
    cases es with
    | nil => rfl
    | cons e es => cases h
  | cons u us ih =>
    cases es with
    | nil => cases h
    | cons e es =>
      obtain ⟨hu,hnear,hrest⟩ := h
      rw [highest, hu, place_ofInt hw hnear, ih hrest, List.foldl_cons]

end RsipRtp.SerialNumber
