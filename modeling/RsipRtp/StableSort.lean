import Mathlib.Data.List.Sort

/-!
# Stable sorting by a descending key

A stable sort keeps equal keys in the order they had.
-/

namespace RsipRtp.StableSort

variable {α β : Type*} [LinearOrder β] {key : α → β} {l added : List α} {P : α → Bool} {p : α}

def sortDesc (key : α → β) (l : List α) : List α :=
  l.insertionSort (fun a b => key b ≤ key a)

def Descending (key : α → β) (l : List α) : Prop := l.Pairwise (fun a b => key b ≤ key a)

theorem sortDesc_perm (key : α → β) (l : List α) : (sortDesc key l).Perm l :=
  List.perm_insertionSort _ l

theorem sortDesc_cons (a : α) : sortDesc key (a::l) =
    (sortDesc key l).orderedInsert (fun a b => key b ≤ key a) a := rfl

theorem sortDesc_descending (key : α → β) (l : List α) : Descending key (sortDesc key l) :=
  have : Std.Total (fun a b : α => key b ≤ key a) := ⟨fun a b => le_total (key b) (key a)⟩
  have : IsTrans α (fun a b => key b ≤ key a) := ⟨fun _ _ _ hab hbc => hbc.trans hab⟩
  List.pairwise_insertionSort _ l

theorem sortDesc_append (hl : Descending key l) (h : ∀ q ∈ added, ∀ p ∈ l, key q ≤ key p) :
    sortDesc key (l++added) = l++sortDesc key added := by
  induction l with
  | nil => rfl
  | cons a l ih =>
    obtain ⟨ha,hl⟩ := List.pairwise_cons.mp hl
    rw [List.cons_append, sortDesc_cons,
      ih hl (fun q hq p hp => h q hq p (List.mem_cons_of_mem a hp)), List.cons_append]
    have hfirst : ∀ b ∈ l++sortDesc key added, key b ≤ key a := by
      intro b hb
      rcases List.mem_append.mp hb with hb | hb
      · exact ha b hb
      · exact h b ((sortDesc_perm key added).mem_iff.mp hb) a List.mem_cons_self
    cases htail : l++sortDesc key added with
    | nil => rfl
    | cons b tail =>
      rw [htail] at hfirst
      rw [List.orderedInsert, if_pos (hfirst b List.mem_cons_self)]

/-- The first of its class after a stable sort, said of the list before it. -/
def Leader (key : α → β) (P : α → Bool) (l : List α) (p : α) : Prop :=
  ∃ before behind, l = before++p::behind ∧ P p = true ∧
    (∀ q ∈ before, P q = true → key q < key p) ∧ ∀ q ∈ behind, P q = true → key q ≤ key p

theorem leader_cons {a : α} : Leader key P (a::l) p ↔
    (p = a ∧ P a = true ∧ ∀ q ∈ l, P q = true → key q ≤ key a) ∨
      Leader key P l p ∧ (P a = true → key a < key p) := by
  constructor
  · rintro ⟨before,behind,hl,hp,hbefore,hbehind⟩
    cases before with
    | nil =>
      cases hl
      exact .inl ⟨rfl,hp,hbehind⟩
    | cons b before =>
      cases hl
      exact .inr ⟨⟨before,behind,rfl,hp,fun q hq => hbefore q (List.mem_cons_of_mem _ hq),hbehind⟩,
        hbefore _ List.mem_cons_self⟩
  · rintro (⟨rfl,hp,h⟩ | ⟨⟨before,behind,rfl,hp,hbefore,hbehind⟩,ha⟩)
    · exact ⟨[],l,rfl,hp,fun q hq => absurd hq List.not_mem_nil,h⟩
    · refine ⟨a::before,behind,rfl,hp,?_,hbehind⟩
      intro q hq
      rcases List.mem_cons.mp hq with rfl | hq
      · exact ha
      · exact hbefore q hq

theorem leader_append (hp : p ∉ added) : Leader key P (l++added) p ↔
    Leader key P l p ∧ ∀ q ∈ added, P q = true → key q ≤ key p := by
  induction l with
  | nil =>
    constructor
    · rintro ⟨before,behind,h,-⟩
      rw [List.nil_append] at h
      exact absurd (h ▸ List.mem_append_right before List.mem_cons_self) hp
    · rintro ⟨⟨before,behind,h,-⟩,-⟩
      cases before <;> cases h
  | cons a l ih =>
    rw [List.cons_append, leader_cons, leader_cons, ih]
    constructor
    · rintro (⟨rfl,ha,h⟩ | ⟨⟨hl,hadded⟩,ha⟩)
      · exact ⟨.inl ⟨rfl,ha,fun q hq => h q (List.mem_append_left _ hq)⟩,
          fun q hq => h q (List.mem_append_right _ hq)⟩
      · exact ⟨.inr ⟨hl,ha⟩,hadded⟩
    · rintro ⟨⟨rfl,ha,h⟩ | ⟨hl,ha⟩,hadded⟩
      · refine .inl ⟨rfl,ha,fun q hq => ?_⟩
        rcases List.mem_append.mp hq with hq | hq
        · exact h q hq
        · exact hadded q hq
      · exact .inr ⟨⟨hl,hadded⟩,ha⟩

/-- The class of a list that an element is inserted into starts with that
element, or with the old leader if that has a larger key. -/
theorem find?_orderedInsert {a : α} (hl : Descending key l) :
    (l.orderedInsert (fun a b => key b ≤ key a) a).find? P = some p ↔
      (p = a ∧ P a = true ∧ ∀ q ∈ l, P q = true → key q ≤ key a) ∨
        l.find? P = some p ∧ (P a = true → key a < key p) := by
  induction l with
  | nil =>
    rw [List.orderedInsert, List.find?_cons, List.find?_nil]
    cases P a with
    | false => simp
    | true => simp [eq_comm (a := p)]
  | cons b l ih =>
    obtain ⟨hb,hl⟩ := List.pairwise_cons.mp hl
    by_cases hab : key b ≤ key a
    · -- `a` goes in front of everything
      have hall : ∀ q ∈ b::l, P q = true → key q ≤ key a := by
        intro q hq _
        rcases List.mem_cons.mp hq with rfl | hq
        · exact hab
        · exact (hb q hq).trans hab
      rw [List.orderedInsert, if_pos hab, List.find?_cons]
      cases hPa : P a with
      | false => simp
      | true =>
        simp only [Option.some.injEq, true_and, true_implies]
        constructor
        · rintro rfl
          exact .inl ⟨rfl,hall⟩
        · rintro (⟨rfl,-⟩ | ⟨hfind,hlt⟩)
          · rfl
          · exact absurd hlt (not_lt.mpr (hall p (List.mem_of_find?_eq_some hfind)
              (List.find?_some hfind)))
    · have hlt := not_le.mp hab
      rw [List.orderedInsert, if_neg hab, List.find?_cons, List.find?_cons]
      cases hPb : P b with
      | false =>
        rw [ih hl]
        simp [hPb]
      | true =>
        simp only [Option.some.injEq]
        constructor
        · rintro rfl
          exact .inr ⟨rfl,fun _ => hlt⟩
        · rintro (⟨rfl,-,h⟩ | ⟨rfl,-⟩)
          · exact absurd (h b List.mem_cons_self hPb) hab
          · rfl

theorem find?_sortDesc : (sortDesc key l).find? P = some p ↔ Leader key P l p := by
  induction l generalizing p with
  | nil =>
    constructor
    · intro h
      cases h
    · rintro ⟨before,behind,h,-⟩
      cases before <;> cases h
  | cons a l ih =>
    rw [sortDesc_cons, find?_orderedInsert (sortDesc_descending key l), ih, leader_cons]
    have hmem : (∀ q ∈ sortDesc key l, P q = true → key q ≤ key a) ↔
        ∀ q ∈ l, P q = true → key q ≤ key a :=
      forall_congr' fun q => by rw [(sortDesc_perm key l).mem_iff]
    rw [hmem]

end RsipRtp.StableSort
