import Mathlib.Data.List.AList

/-!
# Finite maps

Association lists with distinct keys stand for hash maps. Every lemma is
about `lookup`, so that no result depends on the order of the entries.
-/

namespace RsipRtp.FiniteMap

abbrev Map (κ ν : Type) := AList (fun _ : κ => ν)

variable {κ ν ο : Type} [DecidableEq κ]

instance [DecidableEq ν] : DecidableEq (Map κ ν) := fun a b =>
  decidable_of_iff (a.entries = b.entries) AList.ext_iff.symm

theorem lookup_insert_eq (m : Map κ ν) (k k' : κ) (v : ν) :
    (m.insert k v).lookup k' = if k' = k then some v else m.lookup k' := by
  split_ifs with h
  · subst h
    exact AList.lookup_insert m
  · exact AList.lookup_insert_ne h

theorem lookup_erase_eq (m : Map κ ν) (k k' : κ) :
    (m.erase k).lookup k' = if k' = k then none else m.lookup k' := by
  split_ifs with h
  · subst h
    exact AList.lookup_erase k' m
  · exact AList.lookup_erase_ne h

def eraseAll (m : Map κ ν) (ks : List κ) : Map κ ν := ks.foldl (fun m k => m.erase k) m

theorem lookup_eraseAll (m : Map κ ν) (ks : List κ) (k : κ) :
    (eraseAll m ks).lookup k = if k ∈ ks then none else m.lookup k := by
  induction ks generalizing m with
  | nil => rfl
  | cons x ks ih =>
    rw [eraseAll, List.foldl_cons, ← eraseAll, ih, lookup_erase_eq]
    by_cases hx : k = x <;> simp [hx]

def insertAll (m : Map κ ν) (es : List ((_ : κ) × ν)) : Map κ ν :=
  es.foldl (fun m e => m.insert e.1 e.2) m

theorem lookup_insertAll {es : List ((_ : κ) × ν)} (h : es.NodupKeys) (m : Map κ ν) (k : κ) :
    (insertAll m es).lookup k = (es.dlookup k).or (m.lookup k) := by
  induction es generalizing m with
  | nil => rfl
  | cons e es ih =>
    obtain ⟨hnew,hrest⟩ := List.nodupKeys_cons.mp h
    rw [insertAll, List.foldl_cons, ← insertAll, ih hrest, lookup_insert_eq]
    split_ifs with hk
    · subst hk
      rw [List.dlookup_eq_none.mpr hnew, Option.none_or, List.dlookup_cons_eq]
      rfl
    · rw [List.dlookup_cons_ne _ _ hk]

theorem lookup_insertAll_perm {m : Map κ ν} {es : List ((_ : κ) × ν)} (h : es.Perm m.entries)
    (k : κ) : (insertAll ∅ es).lookup k = m.lookup k := by
  have hnodup : es.NodupKeys := (List.perm_nodupKeys h).mpr m.nodupKeys
  rw [lookup_insertAll hnodup, AList.lookup_empty, Option.or_none]
  exact List.perm_dlookup k hnodup h

def select (m : Map κ ν) (p : ν → Bool) : List (κ × ν) :=
  (m.entries.filter (fun e => p e.2)).map (fun e => (e.1,e.2))

theorem mem_select {m : Map κ ν} {p : ν → Bool} {k : κ} {v : ν} :
    (k,v) ∈ select m p ↔ m.lookup k = some v ∧ p v = true := by
  have hl := AList.mem_lookup_iff (a := k) (b := v) (s := m)
  rw [Option.mem_def] at hl
  simp only [select, List.mem_map, List.mem_filter, Prod.mk.injEq]
  constructor
  · rintro ⟨⟨k',v'⟩,⟨hm,hp⟩,rfl,rfl⟩
    exact ⟨hl.mpr hm,hp⟩
  · rintro ⟨hm,hp⟩
    exact ⟨⟨k,v⟩,⟨hl.mp hm,hp⟩,rfl,rfl⟩

theorem mem_select_keys {m : Map κ ν} {p : ν → Bool} {k : κ} :
    k ∈ (select m p).map Prod.fst ↔ ∃ v, m.lookup k = some v ∧ p v = true := by
  simp [mem_select]

theorem lookup_eraseAll_select (m : Map κ ν) (p : ν → Bool) (k : κ) :
    (eraseAll m ((select m p).map Prod.fst)).lookup k = (m.lookup k).filter (fun v => !p v) := by
  rw [lookup_eraseAll]
  cases h : m.lookup k with
  | none => simp
  | some v =>
    have hk : k ∈ (select m p).map Prod.fst ↔ p v = true := by simp [mem_select_keys, h]
    cases hp : p v <;> simp [Option.filter, hp] at hk ⊢ <;> exact hk

def modifyAt (m : Map κ ν) (k : κ) (f : ν → ν × List ο) : Map κ ν × List ο :=
  match m.lookup k with
  | some v => (m.insert k (f v).1,(f v).2)
  | none => (m,[])

theorem lookup_modifyAt (m : Map κ ν) (k k' : κ) (f : ν → ν × List ο) :
    (modifyAt m k f).1.lookup k' =
      if k' = k then (m.lookup k).map (fun v => (f v).1) else m.lookup k' := by
  unfold modifyAt
  cases h : m.lookup k with
  | none =>
    dsimp only
    split_ifs with hk
    · rw [hk, h]
      rfl
    · rfl
  | some v =>
    dsimp only
    rw [lookup_insert_eq]
    rfl

def size (m : Map κ ν) : ℕ := m.keys.length

theorem size_insert {m : Map κ ν} {k : κ} (v : ν) (h : m.lookup k = none) :
    size (m.insert k v) = size m+1 := by
  have hk : k ∉ m := AList.lookup_eq_none.mp h
  rw [size, AList.keys_insert, List.erase_of_not_mem (mt AList.mem_keys.mpr hk), List.length_cons,
    size]

theorem size_erase {m : Map κ ν} {k : κ} {v : ν} (h : m.lookup k = some v) :
    size (m.erase k)+1 = size m := by
  have hk : k ∈ m := AList.lookup_isSome.mp (by rw [h]; rfl)
  rw [size, AList.keys_erase, List.length_erase_of_mem (AList.mem_keys.mp hk), size]
  exact Nat.succ_pred_eq_of_pos (List.length_pos_of_mem (AList.mem_keys.mp hk))

def firstKey [Min κ] (m : Map κ ν) : Option κ := m.keys.min?

theorem firstKey_lookup [Min κ] [Std.MinEqOr κ] {m : Map κ ν} {k : κ} (h : firstKey m = some k) :
    ∃ v, m.lookup k = some v :=
  Option.isSome_iff_exists.mp (AList.lookup_isSome.mpr (AList.mem_keys.mpr (List.min?_mem h)))

end RsipRtp.FiniteMap
