import Mathlib.Data.Nat.Notation
import Mathlib.Logic.Function.Basic
import Mathlib.Logic.Relation
import Mathlib.Tactic.SplitIfs

/-!
# Routing tables

Numbered items of several kinds are stored with an identifier each. A route
leads from an identifier to a number, and the kind of a number says where its
item is stored. Items are admitted under the next number, change their
standing, and are swept out with their routes once they have ended.

`Routed` is the invariant that messages reach their items. It survives every
move as long as an item is admitted only under an identifier without a route.
-/

namespace RsipRtp.RoutingTable

structure Table (τ ι : Type) where
  stored : τ → ℕ → Option (ι × Bool)
  route : ι → Option ℕ
  kind : ℕ → Option τ
  next : ℕ

variable {τ ι : Type}

structure Touched (t t' : Table τ ι) : Prop where
  stored : ∀ k n, (t'.stored k n).map Prod.fst = (t.stored k n).map Prod.fst
  route : t'.route = t.route
  kind : t'.kind = t.kind
  next : t'.next = t.next

/-- An item of kind `k` is stored under the next number. -/
structure Admitted [DecidableEq τ] [DecidableEq ι] (k : τ) (i : ι) (t t' : Table τ ι) : Prop where
  stored : ∃ ended, ∀ k' n, t'.stored k' n =
    if k' = k ∧ n = t.next then some (i,ended) else t.stored k' n
  route : t'.route = Function.update t.route i (some t.next)
  kind : t'.kind = Function.update t.kind t.next (some k)
  next : t'.next = t.next+1

/-- The ended items of one kind leave, with the routes of their identifiers. -/
structure Swept [DecidableEq τ] (k : τ) (t t' : Table τ ι) : Prop where
  stored : ∀ k' n, t'.stored k' n =
    if k' = k then (t.stored k n).filter (fun p => !p.2) else t.stored k' n
  route_ended : ∀ i, (∃ n, t.stored k n = some (i,true)) → t'.route i = none
  route_else : ∀ i, (¬∃ n, t.stored k n = some (i,true)) → t'.route i = t.route i
  kind_ended : ∀ n, (∃ i, t.stored k n = some (i,true)) → t'.kind n = none
  kind_else : ∀ n, (¬∃ i, t.stored k n = some (i,true)) → t'.kind n = t.kind n
  next : t'.next = t.next

/-- What one operation may do. `A` restricts the admissions. -/
inductive Move [DecidableEq τ] [DecidableEq ι] (A : Table τ ι → τ → ι → Prop) (t t' : Table τ ι) :
    Prop where
  | touch (h : Touched t t')
  | skip (h : t' = { t with next := t.next+1 })
  | enter (k : τ) (i : ι) (ha : A t k i) (h : Admitted k i t t')
  | sweep (k : τ) (h : Swept k t t')

abbrev Moves [DecidableEq τ] [DecidableEq ι] (A : Table τ ι → τ → ι → Prop) :=
  Relation.ReflTransGen (Move A)

/-- Each stored item is the target of its identifier's route and is stored
under the kind of its number, and each route leads to a stored item. -/
structure Routed (t : Table τ ι) : Prop where
  item : ∀ k n i ended, t.stored k n = some (i,ended) →
    t.route i = some n ∧ t.kind n = some k
  target : ∀ i n, t.route i = some n → ∃ k ended, t.stored k n = some (i,ended)
  bound : ∀ k n p, t.stored k n = some p → n < t.next

structure Typed (P : τ → ι → Prop) (t : Table τ ι) : Prop where
  fits : ∀ i n k, t.route i = some n → t.kind n = some k → P k i
  bound : ∀ i n, t.route i = some n → n < t.next

section Routed

variable {t t' : Table τ ι}

theorem Touched.routed (h : Touched t t') (hr : Routed t) : Routed t' := by
  have ids {k n i} : (∃ ended, t'.stored k n = some (i,ended)) ↔
      ∃ ended, t.stored k n = some (i,ended) := by
    have hi := congrArg (· = some i) (h.stored k n)
    simpa [Option.map_eq_some_iff] using hi
  constructor
  · intro k n i ended hs
    obtain ⟨e,he⟩ := ids.mp ⟨ended,hs⟩
    rw [h.route, h.kind]
    exact hr.item k n i e he
  · intro i n hi
    rw [h.route] at hi
    obtain ⟨k,ended,he⟩ := hr.target i n hi
    exact ⟨k,ids.mpr ⟨ended,he⟩⟩
  · intro k n p hs
    obtain ⟨e,he⟩ := ids.mp ⟨p.2,hs⟩
    rw [h.next]
    exact hr.bound k n _ he

theorem Admitted.routed [DecidableEq τ] [DecidableEq ι] {k : τ} {i : ι} (h : Admitted k i t t')
    (hfree : t.route i = none) (hr : Routed t) : Routed t' := by
  obtain ⟨ended,hs⟩ := h.stored
  constructor
  · intro k' n j e hj
    rw [hs] at hj
    split_ifs at hj with hnew
    · obtain ⟨rfl,rfl⟩ := hnew
      cases hj
      simp [h.route, h.kind]
    · obtain ⟨hrj,hkn⟩ := hr.item k' n j e hj
      have hji : j ≠ i := by
        rintro rfl
        simp [hfree] at hrj
      have hlt := hr.bound k' n _ hj
      rw [h.route, h.kind, Function.update_of_ne hji, Function.update_of_ne (Nat.ne_of_lt hlt)]
      exact ⟨hrj,hkn⟩
  · intro j n hj
    rw [h.route] at hj
    by_cases hji : j = i
    · subst hji
      rw [Function.update_self] at hj
      cases hj
      exact ⟨k,ended,by simp [hs]⟩
    · rw [Function.update_of_ne hji] at hj
      obtain ⟨k',e,he⟩ := hr.target j n hj
      have hlt := hr.bound k' n _ he
      exact ⟨k',e,by rw [hs, if_neg (fun hc => Nat.ne_of_lt hlt hc.2), he]⟩
  · intro k' n p hp
    rw [hs] at hp
    rw [h.next]
    split_ifs at hp with hnew
    · rw [hnew.2]
      exact Nat.lt_succ_self _
    · exact Nat.lt_succ_of_lt (hr.bound k' n p hp)

theorem Swept.routed [DecidableEq τ] {k : τ} (h : Swept k t t') (hr : Routed t) : Routed t' := by
  have old {k' n p} (hs : t'.stored k' n = some p) :
      t.stored k' n = some p ∧ (k' = k → p.2 = false) := by
    rw [h.stored] at hs
    split_ifs at hs with hk
    · subst hk
      obtain ⟨hp,hf⟩ := Option.filter_eq_some_iff.mp hs
      exact ⟨hp,fun _ => by simpa using hf⟩
    · exact ⟨hs,fun e => absurd e hk⟩
  constructor
  · intro k' n i ended hs
    obtain ⟨ho,hlive⟩ := old hs
    obtain ⟨hri,hki⟩ := hr.item k' n i ended ho
    -- an ended item under the same number would be the item itself
    have stays {j} (hj : t.stored k n = some (j,true)) : False := by
      have hkk : k' = k := by simpa [hki] using (hr.item k n j true hj).2
      subst hkk
      have he := hlive rfl
      simp_all
    constructor
    · rw [h.route_else, hri]
      rintro ⟨m,hm⟩
      have hmn : n = m := by simpa [hri] using (hr.item k m i true hm).1
      exact stays (hmn ▸ hm)
    · rw [h.kind_else, hki]
      rintro ⟨j,hj⟩
      exact stays hj
  · intro i n hri
    have hne : ¬∃ m, t.stored k m = some (i,true) := fun he => by
      simp [h.route_ended i he] at hri
    rw [h.route_else i hne] at hri
    obtain ⟨k',ended,hs⟩ := hr.target i n hri
    refine ⟨k',ended,?_⟩
    rw [h.stored]
    split_ifs with hk
    · subst hk
      rw [hs]
      cases ended with
      | false => rfl
      | true => exact absurd ⟨n,hs⟩ hne
    · exact hs
  · intro k' n p hs
    rw [h.next]
    exact hr.bound k' n p (old hs).1

theorem Moves.routed [DecidableEq τ] [DecidableEq ι] {A : Table τ ι → τ → ι → Prop}
    (hA : ∀ t k i, A t k i → t.route i = none) (h : Moves A t t') (hr : Routed t) :
    Routed t' := by
  induction h with
  | refl => exact hr
  | tail _ hm ih =>
    cases hm with
    | touch h | sweep k h => exact h.routed ih
    | skip h =>
      subst h
      exact ⟨ih.item,ih.target,fun k n p hp => Nat.lt_succ_of_lt (ih.bound k n p hp)⟩
    | enter k i ha h => exact h.routed (hA _ k i ha) ih

end Routed

section Typed

variable {t t' : Table τ ι} {P : τ → ι → Prop}

theorem Admitted.typed [DecidableEq τ] [DecidableEq ι] {k : τ} {i : ι} (h : Admitted k i t t')
    (hP : P k i) (ht : Typed P t) : Typed P t' := by
  constructor
  · intro j n k' hj hkn
    rw [h.route] at hj
    rw [h.kind] at hkn
    by_cases hji : j = i
    · subst hji
      rw [Function.update_self] at hj
      cases hj
      rw [Function.update_self] at hkn
      cases hkn
      exact hP
    · rw [Function.update_of_ne hji] at hj
      rw [Function.update_of_ne (Nat.ne_of_lt (ht.bound j n hj))] at hkn
      exact ht.fits j n k' hj hkn
  · intro j n hj
    rw [h.route] at hj
    rw [h.next]
    by_cases hji : j = i
    · subst hji
      rw [Function.update_self] at hj
      cases hj
      exact Nat.lt_succ_self _
    · rw [Function.update_of_ne hji] at hj
      exact Nat.lt_succ_of_lt (ht.bound j n hj)

theorem Swept.typed [DecidableEq τ] {k : τ} (h : Swept k t t') (ht : Typed P t) : Typed P t' := by
  have old {i n} (hi : t'.route i = some n) : t.route i = some n := by
    rwa [h.route_else i fun he => by simp [h.route_ended i he] at hi] at hi
  constructor
  · intro i n k' hi hkn
    refine ht.fits i n k' (old hi) ?_
    rwa [h.kind_else n fun he => by simp [h.kind_ended n he] at hkn] at hkn
  · intro i n hi
    rw [h.next]
    exact ht.bound i n (old hi)

theorem Moves.typed [DecidableEq τ] [DecidableEq ι] {A : Table τ ι → τ → ι → Prop}
    (hA : ∀ t k i, A t k i → P k i) (h : Moves A t t') (ht : Typed P t) : Typed P t' := by
  induction h with
  | refl => exact ht
  | tail _ hm ih =>
    cases hm with
    | touch h =>
      exact ⟨by rw [h.route, h.kind]; exact ih.fits,by rw [h.route, h.next]; exact ih.bound⟩
    | skip h =>
      subst h
      exact ⟨ih.fits,fun i n hi => Nat.lt_succ_of_lt (ih.bound i n hi)⟩
    | enter k i ha h => exact h.typed (hA _ k i ha) ih
    | sweep k h => exact h.typed ih

end Typed

section Persists

variable {t t' : Table τ ι}

/-- A number that was given out keeps its item until that leaves, and gets no
other one. -/
structure Persists (t t' : Table τ ι) : Prop where
  next : t.next ≤ t'.next
  held : ∀ k n i, n < t.next → (t'.stored k n).map Prod.fst = some i →
    (t.stored k n).map Prod.fst = some i

theorem Persists.refl (t : Table τ ι) : Persists t t := ⟨Nat.le_refl _,fun _ _ _ _ hi => hi⟩

theorem Persists.trans {u : Table τ ι} (h : Persists t t') (h' : Persists t' u) : Persists t u :=
  ⟨Nat.le_trans h.next h'.next,
    fun k n i hn hi => h.held k n i hn (h'.held k n i (Nat.lt_of_lt_of_le hn h.next) hi)⟩

theorem Move.persists [DecidableEq τ] [DecidableEq ι] {A : Table τ ι → τ → ι → Prop}
    (h : Move A t t') : Persists t t' := by
  cases h with
  | touch h => exact ⟨Nat.le_of_eq h.next.symm,fun k n i _ hi => (h.stored k n).symm.trans hi⟩
  | skip h =>
    subst h
    exact ⟨Nat.le_succ _,fun _ _ _ _ hi => hi⟩
  | enter k i _ h =>
    obtain ⟨ended,hs⟩ := h.stored
    refine ⟨h.next ▸ Nat.le_succ _,fun k' n j hn hj => ?_⟩
    rwa [hs, if_neg fun hnew => Nat.ne_of_lt hn hnew.2] at hj
  | sweep k h =>
    refine ⟨Nat.le_of_eq h.next.symm,fun k' n i _ hi => ?_⟩
    rw [h.stored] at hi
    split_ifs at hi with hk
    · obtain ⟨p,hp,rfl⟩ := Option.map_eq_some_iff.mp hi
      rw [hk, (Option.filter_eq_some_iff.mp hp).1]
      rfl
    · exact hi

theorem Moves.persists [DecidableEq τ] [DecidableEq ι] {A : Table τ ι → τ → ι → Prop}
    (h : Moves A t t') : Persists t t' := by
  induction h with
  | refl => exact .refl t
  | tail _ hmove ih => exact ih.trans hmove.persists

end Persists

end RsipRtp.RoutingTable
