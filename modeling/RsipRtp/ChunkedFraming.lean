import Mathlib.Data.List.Basic

/-!
# Frames in a stream that arrives in pieces

A reader keeps what has arrived and cuts a frame off its front when it can.
Padding between frames is made of pairs that no frame starts with.
-/

namespace RsipRtp.ChunkedFraming

variable {α : Type*}

section Padding
variable (cr lf : α)

def pairs (k : ℕ) : List α := (List.replicate k [cr,lf]).flatten

theorem pairs_succ (k : ℕ) : pairs cr lf (k+1) = cr::lf::pairs cr lf k := rfl

variable [DecidableEq α]

def stripPairs : List α → List α × ℕ
  | a::b::rest =>
    if a = cr ∧ b = lf then ((stripPairs rest).1,(stripPairs rest).2+1) else (a::b::rest,0)
  | s => (s,0)

variable {cr lf}

theorem stripPairs_start {s : List α} (h : ∀ a ∈ s.head?, a ≠ cr) : (stripPairs cr lf s).1 = s := by
  match s with
  | [] => rfl
  | [a] => rfl
  | a::b::rest =>
    have ha : a ≠ cr := h a rfl
    rw [stripPairs, if_neg (fun hpair => ha hpair.1)]

theorem stripPairs_arrived {buf later s : List α} {k : ℕ} (hs : ∀ a ∈ s.head?, a ≠ cr)
    (h : buf++later = pairs cr lf k++s) :
    ∃ j, (stripPairs cr lf buf).1++later = pairs cr lf j++s ∧
      (j = 0 ∨ (stripPairs cr lf buf).1.length ≤ 1) := by
  induction k generalizing buf with
  | zero =>
    have hstart : ∀ a ∈ buf.head?, a ≠ cr := by
      intro a ha
      obtain ⟨tail,rfl⟩ := List.head?_eq_some_iff.mp ha
      refine hs a ?_
      rw [← show (a::tail)++later = s from h]
      rfl
    rw [stripPairs_start hstart]
    exact ⟨0,h,.inl rfl⟩
  | succ k ih =>
    match buf with
    | [] => exact ⟨k+1,h,.inr (Nat.zero_le _)⟩
    | [a] => exact ⟨k+1,h,.inr (Nat.le_refl _)⟩
    | a::b::rest =>
      rw [pairs_succ, List.cons_append, List.cons_append, List.cons_append, List.cons_append] at h
      obtain ⟨rfl,h⟩ := List.cons.inj h
      obtain ⟨rfl,h⟩ := List.cons.inj h
      rw [stripPairs, if_pos ⟨rfl,rfl⟩]
      exact ih h

end Padding

structure Frame (cut : List α → Option (List α × List α)) (m : List α) : Prop where
  complete : ∀ rest, cut (m++rest) = some (m,rest)
  incomplete : ∀ p, p <+: m → p.length < m.length → cut p = none

theorem Frame.arrived {cut : List α → Option (List α × List α)} {m buf later s : List α}
    (hm : Frame cut m) (h : buf++later = m++s) :
    (∃ rest, cut buf = some (m,rest) ∧ rest++later = s) ∨
      (cut buf = none ∧ buf.length < m.length) := by
  rcases List.append_eq_append_iff.mp h with ⟨missing,hmissing,hlater⟩ | ⟨rest,rfl,hrest⟩
  · cases missing with
    | nil =>
      rw [List.append_nil] at hmissing
      have hwhole := hm.complete []
      rw [List.append_nil, hmissing] at hwhole
      exact .inl ⟨[],by rw [hmissing]; exact hwhole,hlater⟩
    | cons a missing =>
      have hlen : buf.length < m.length := by
        rw [hmissing, List.length_append, List.length_cons]
        omega
      exact .inr ⟨hm.incomplete buf ⟨_,hmissing.symm⟩ hlen,hlen⟩
  · exact .inl ⟨rest,hm.complete rest,hrest.symm⟩

end RsipRtp.ChunkedFraming
