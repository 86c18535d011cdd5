import Mathlib.Data.List.Basic

/-!
# Scanning a text up to a character to stop at

A scanner goes through a text with a state, and in some states some characters
stop it.
-/

namespace RsipRtp.TextScanner

variable {α σ : Type} (step : σ → α → Option σ) (start : σ)

/-- The state behind a text with nothing to stop at. -/
def walk (q : σ) (s : List α) : Option σ := s.foldlM step q

/-- What stands before the first character to stop at, and the rest from there on. -/
def cut : σ → List α → Option (List α × List α)
  | _, [] => none
  | q, c::s => match step q c with
    | none => some ([],c::s)
    | some q' => (cut q' s).map fun p => (c::p.1,p.2)

/-- The state behind a text when the scanner starts anew after every stop. -/
def final (q : σ) (s : List α) : σ := s.foldl (fun q c => (step q c).getD start) q

/-- What stands between the characters to stop at. -/
def pieces : σ → List α → List (List α)
  | _, [] => [[]]
  | q, c::s => match step q c with
    | none => []::pieces start s
    | some q' => (pieces q' s).modifyHead (c::·)

variable {step start} {q : σ} {a r s t : List α}

theorem walk_append (q : σ) (s t : List α) :
    walk step q (s++t) = (walk step q s).bind (walk step · t) := List.foldlM_append

theorem walk_cons (q : σ) (c : α) (s : List α) :
    walk step q (c::s) = (step q c).bind (walk step · s) := List.foldlM_cons

theorem cut_step {q' : σ} {c : α} (h : step q c = some q') (s : List α) :
    cut step q (c::s) = (cut step q' s).map fun p => (c::p.1,p.2) := by
  rw [cut, h]

theorem cut_eq_none : cut step q s = none ↔ ∃ q', walk step q s = some q' := by
  induction s generalizing q with
  | nil => exact iff_of_true rfl ⟨q,rfl⟩
  | cons c s ih =>
    rw [cut, walk_cons]
    cases step q c with
    | none => simp
    | some q' => rw [Option.map_eq_none_iff, Option.bind_some, ih]

theorem cut_eq_some : cut step q s = some (a,r) ↔ a++r = s ∧ ∃ q' c t, walk step q a = some q' ∧
    r = c::t ∧ step q' c = none := by
  induction s generalizing q a with
  | nil =>
    refine iff_of_false nofun ?_
    rintro ⟨hnil,_,c,t,_,rfl,_⟩
    simp at hnil
  | cons c s ih =>
    rw [cut]
    cases hstep : step q c with
    | none =>
      simp only [Option.some.injEq, Prod.mk.injEq]
      constructor
      · rintro ⟨rfl,rfl⟩
        exact ⟨rfl,q,c,s,rfl,rfl,hstep⟩
      · rintro ⟨heq,q',d,t,hwalk,rfl,_⟩
        cases a with
        | nil => exact ⟨rfl,heq.symm⟩
        | cons x a =>
          rw [(List.cons.inj heq).1, walk_cons, hstep] at hwalk
          cases hwalk
    | some q' =>
      simp only [Option.map_eq_some_iff, Prod.mk.injEq, Prod.exists]
      constructor
      · rintro ⟨b,r,hcut,rfl,rfl⟩
        obtain ⟨rfl,q'',d,t,hwalk,rfl,hstop⟩ := ih.mp hcut
        exact ⟨rfl,q'',d,t,by rwa [walk_cons, hstep],rfl,hstop⟩
      · rintro ⟨heq,q'',d,t,hwalk,rfl,hstop⟩
        cases a with
        | nil =>
          cases hwalk
          rw [(List.cons.inj heq).1, hstep] at hstop
          cases hstop
        | cons x a =>
          obtain ⟨rfl,rfl⟩ := List.cons.inj heq
          rw [walk_cons, hstep] at hwalk
          exact ⟨a,_,ih.mpr ⟨rfl,q'',d,t,hwalk,rfl,hstop⟩,rfl,rfl⟩

theorem cut_append (h : cut step q s = some (a,r)) (x : List α) :
    cut step q (s++x) = some (a,r++x) := by
  obtain ⟨rfl,q',c,t,hwalk,rfl,hstop⟩ := cut_eq_some.mp h
  exact cut_eq_some.mpr ⟨by simp,q',c,t++x,hwalk,rfl,hstop⟩

/-- A stop that is only found in a longer text lies in what was added. -/
theorem cut_beyond {c : α} (hs : cut step q s = none) (hc : ∀ p, step p c ≠ none)
    (h : cut step q (s++c::t) = some (a,r)) : r.length < (c::t).length := by
  obtain ⟨q',hq⟩ := cut_eq_none.mp hs
  obtain ⟨heq,p,d,u,hwalk,rfl,hstop⟩ := cut_eq_some.mp h
  by_contra hlong
  have hlen := congrArg List.length heq
  rw [List.length_append, List.length_append] at hlen
  obtain ⟨b,rfl⟩ : a <+: s := List.prefix_of_prefix_length_le ⟨_,heq⟩ ⟨_,rfl⟩ (by omega)
  rw [List.append_assoc, List.append_right_inj] at heq
  cases b with
  | nil => exact hc p ((List.cons.inj heq).1 ▸ hstop)
  | cons e b =>
    rw [walk_append, hwalk, Option.bind_some, walk_cons, ← (List.cons.inj heq).1, hstop] at hq
    cases hq

theorem pieces_stop {c : α} (h : step q c = none) (s : List α) :
    pieces step start q (c::s) = []::pieces step start start s := by
  rw [pieces, h]

theorem pieces_step {p : σ} {c : α} (h : step q c = some p) (s : List α) :
    pieces step start q (c::s) = (pieces step start p s).modifyHead (c::·) := by
  rw [pieces, h]

theorem pieces_ne_nil (q : σ) (s : List α) : pieces step start q s ≠ [] := by
  induction s generalizing q with
  | nil => exact List.cons_ne_nil _ _
  | cons c s ih =>
    rw [pieces]
    split
    · exact List.cons_ne_nil _ _
    · simpa using ih _

theorem modifyHead_nil_append (l : List (List α)) : l.modifyHead ([]++·) = l := by
  cases l <;> rfl

theorem pieces_walk {q' : σ} (h : walk step q s = some q') (t : List α) :
    pieces step start q (s++t) = (pieces step start q' t).modifyHead (s++·) := by
  induction s generalizing q with
  | nil =>
    cases h
    exact (modifyHead_nil_append _).symm
  | cons c s ih =>
    rw [walk_cons] at h
    obtain ⟨p,hp,h⟩ := Option.bind_eq_some_iff.mp h
    rw [List.cons_append, pieces_step hp, ih h, List.modifyHead_modifyHead]
    rfl

theorem pieces_of_walk {q' : σ} (h : walk step q s = some q') : pieces step start q s = [s] := by
  have hwhole : pieces step start q (s++[]) = _ := pieces_walk h []
  rwa [List.append_nil, pieces, List.modifyHead_cons, List.append_nil] at hwhole

/-- The last piece, from where it starts, and how a longer text goes on from it. -/
theorem pieces_last (step : σ → α → Option σ) (start q : σ) (s : List α) : ∃ init last,
    pieces step start q s = init++[last] ∧
    (∀ t, pieces step start q (s++t) =
      init++(pieces step start (final step start q s) t).modifyHead (last++·)) ∧
    walk step (if init = [] then q else start) last = some (final step start q s) := by
  induction s generalizing q with
  | nil => exact ⟨[],[],rfl,fun t => (modifyHead_nil_append _).symm,rfl⟩
  | cons c s ih =>
    rw [show final step start q (c::s) = final step start ((step q c).getD start) s from rfl]
    cases hstep : step q c with
    | none =>
      obtain ⟨init,last,hpieces,hgrow,hwalk⟩ := ih start
      rw [ite_self] at hwalk
      refine ⟨[]::init,last,by rw [pieces_stop hstep, hpieces]; rfl,fun t => ?_,hwalk⟩
      rw [List.cons_append, pieces_stop hstep, hgrow]
      rfl
    | some p =>
      obtain ⟨init,last,hpieces,hgrow,hwalk⟩ := ih p
      cases init with
      | nil =>
        refine ⟨[],c::last,by rw [pieces_step hstep, hpieces]; rfl,fun t => ?_,?_⟩
        · rw [List.cons_append, pieces_step hstep, hgrow, List.nil_append,
            List.modifyHead_modifyHead]
          rfl
        · rw [if_pos rfl] at hwalk ⊢
          rwa [walk_cons, hstep]
      | cons u us =>
        refine ⟨(c::u)::us,last,by rw [pieces_step hstep, hpieces]; rfl,fun t => ?_,hwalk⟩
        rw [List.cons_append, pieces_step hstep, hgrow]
        rfl

end RsipRtp.TextScanner
