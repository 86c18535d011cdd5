import Mathlib.Data.List.Forall2

/-!
# Searching and cutting lists

The first entry that is looked for, what stands before it and behind it, and
lists that are put together piece by piece.
-/

namespace RsipRtp.ListSearch

theorem findSome?_find? {α β : Type} (f : α → Option β) (l : List α) :
    l.findSome? f = (l.find? (fun a => (f a).isSome)).bind f := by
  induction l with
  | nil => rfl
  | cons a l ih =>
    rw [List.findSome?_cons, List.find?_cons]
    cases hf : f a with
    | none => exact ih
    | some b => exact hf.symm

theorem findSome?_if {α β : Type} (p : α → Bool) (g : α → β) (l : List α) :
    (l.findSome? (fun a => if p a then some (g a) else none)).isSome = l.any p := by
  rw [List.isSome_findSome?]
  congr 1
  funext a
  cases p a <;> rfl

theorem findSome?_filterMap {α β γ : Type} (f : α → Option β) (g : β → Option γ) (l : List α) :
    (l.filterMap f).findSome? g = l.findSome? (fun a => (f a).bind g) := by
  induction l with
  | nil => rfl
  | cons a l ih =>
    rw [List.filterMap_cons, List.findSome?_cons]
    cases f a with
    | none => exact ih
    | some b =>
      rw [Option.bind_some, List.findSome?_cons, ih]

theorem split_at_first {α : Type} {p : α → Bool} {l : List α} {i : ℕ}
    (h : l.findIdx? p = some i) :
    ∃ before x after, l = before++x::after ∧ (∀ y ∈ before, p y = false) ∧ p x = true := by
  obtain ⟨hlt,hp,hbefore⟩ := List.findIdx?_eq_some_iff_getElem.mp h
  refine ⟨l.take i,l[i],l.drop (i+1),?_,?_,hp⟩
  · rw [List.getElem_cons_drop, List.take_append_drop]
  · intro y hy
    obtain ⟨j,hj,rfl⟩ := List.getElem_of_mem hy
    rw [List.getElem_take]
    simpa using hbefore j (by simp at hj; omega)

theorem findIdx?_split {α : Type} {p : α → Bool} {before after : List α} {x : α}
    (hbefore : ∀ y ∈ before, p y = false) (hx : p x = true) :
    (before++x::after).findIdx? p = some before.length := by
  rw [List.findIdx?_append, List.findIdx?_eq_none_iff.mpr hbefore, List.findIdx?_cons, hx]
  simp

theorem modify_split {α : Type} (before after : List α) (x : α) (f : α → α) :
    (before++x::after).modify before.length f = before++f x::after := by
  induction before with
  | nil => rfl
  | cons y before ih => simp [ih]

theorem forall₂_split {α : Type} {R : α → α → Prop} (k : α → α) (before after : List α)
    (x x' : α) : List.Forall₂ R (before++x'::after) ((before++x::after).map k) ↔
      (∀ y ∈ before++after, R y (k y)) ∧ R x' (k x) := by
  induction before with
  | nil =>
    rw [List.nil_append, List.nil_append, List.map_cons, List.forall₂_cons,
      List.forall₂_map_right_iff, List.forall₂_same, and_comm]
    rfl
  | cons y before ih =>
    rw [List.cons_append, List.cons_append, List.map_cons, List.forall₂_cons, ih, List.cons_append,
      List.forall_mem_cons, and_assoc]

theorem flatMap_eq_map_iff {α β : Type} {xs : List α} {f : α → List β} {g : α → β}
    (h : ∀ x ∈ xs, (f x).length ≤ 1) : xs.flatMap f = xs.map g ↔ ∀ x ∈ xs, f x = [g x] := by
  have hshort : ∀ ys : List α, (∀ y ∈ ys, (f y).length ≤ 1) →
      (ys.flatMap f).length ≤ ys.length := by
    intro ys hys
    induction ys with
    | nil => simp
    | cons y ys ih =>
      obtain ⟨hy,hys⟩ := List.forall_mem_cons.mp hys
      have hrest := ih hys
      rw [List.flatMap_cons, List.length_append, List.length_cons]
      omega
  induction xs with
  | nil => simp
  | cons x xs ih =>
    obtain ⟨hx,hxs⟩ := List.forall_mem_cons.mp h
    rw [List.flatMap_cons, List.map_cons, List.forall_mem_cons]
    rcases hf : f x with _ | ⟨y,_ | ⟨z,ys⟩⟩
    · refine ⟨fun heq => ?_,fun heq => by cases heq.1⟩
      have hlen := hshort xs hxs
      rw [← List.nil_append (xs.flatMap f), heq, List.length_cons, List.length_map] at hlen
      omega
    · rw [List.singleton_append, List.cons.injEq, List.singleton_inj]
      exact and_congr_right' (ih hxs)
    · rw [hf, List.length_cons, List.length_cons] at hx
      omega

end RsipRtp.ListSearch
