import Mathlib.Data.List.Basic

/-!
# Machines that answer every input

A machine maps a state and an input to an answer and the next state.
-/

namespace RsipRtp.ReplyMachine

variable {σ ι ο : Type*}

abbrev Machine (σ ι ο : Type*) := σ → ι → ο × σ

def replies (f : Machine σ ι ο) : σ → List ι → List ο
  | _, [] => []
  | s, i::is => (f s i).1::replies f (f s i).2 is

def repliesOn (f : Machine σ ι ο) (p : ι → Bool) : σ → List ι → List ο
  | _, [] => []
  | s, i::is =>
    if p i then (f s i).1::repliesOn f p (f s i).2 is else repliesOn f p (f s i).2 is

/-- The full run from `s` and the observed run from `t` meet `G` at every
observed input. -/
def Beside (f : Machine σ ι ο) (p : ι → Bool) (G : σ → σ → ι → Prop) : σ → σ → List ι → Prop
  | _, _, [] => True
  | s, t, i::is =>
    if p i then G s t i ∧ Beside f p G (f s i).2 (f t i).2 is else Beside f p G (f s i).2 t is

variable {f : Machine σ ι ο} {p : ι → Bool} {G : σ → σ → ι → Prop}

instance decidableBeside [∀ s t i, Decidable (G s t i)] :
    ∀ s t is, Decidable (Beside f p G s t is)
  | _, _, [] => isTrue trivial
  | s, t, i::is =>
    haveI := decidableBeside (f s i).2 (f t i).2 is
    haveI := decidableBeside (f s i).2 t is
    inferInstanceAs (Decidable (if p i then _ ∧ _ else _))

theorem repliesOn_eq_filter {R : σ → σ → Prop}
    (hseen : ∀ s t i, R s t → p i = true → G s t i →
      (f s i).1 = (f t i).1 ∧ R (f s i).2 (f t i).2)
    (hhidden : ∀ s t i, R s t → p i = false → R (f s i).2 t)
    {s t : σ} {is : List ι} (hr : R s t) (hg : Beside f p G s t is) :
    repliesOn f p s is = replies f t (is.filter p) := by
  induction is generalizing s t with
  | nil => rfl
  | cons i is ih =>
    cases hp : p i with
    | true =>
      simp only [Beside, hp, if_true] at hg
      obtain ⟨hout,hnext⟩ := hseen s t i hr hp hg.1
      simp only [repliesOn, hp, if_true, List.filter_cons_of_pos hp, replies]
      rw [hout, ih hnext hg.2]
    | false =>
      simp only [Beside, hp, Bool.false_eq_true, if_false] at hg
      have hskip : ¬p i = true := by simp [hp]
      rw [List.filter_cons_of_neg hskip, repliesOn, if_neg hskip]
      exact ih (hhidden s t i hr hp) hg

end RsipRtp.ReplyMachine
