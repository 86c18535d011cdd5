import Mathlib.Data.List.Basic

/-!
# Runs of partial machines with output

A step reads a state and an input and either stops for good or yields the next
state with a finite list of outputs. A run concatenates the outputs.
-/

namespace RsipRtp.OutputMachine

variable {σ ι ο : Type*}

abbrev Step (σ ι ο : Type*) := σ → ι → Option (σ × List ο)

def run (step : Step σ ι ο) : σ → List ι → Option (σ × List ο)
  | s, [] => some (s,[])
  | s, i::is => (step s i).bind (fun p => (run step p.1 is).map (fun q => (q.1,p.2++q.2)))

def Guarded (step : Step σ ι ο) (G : σ → ι → Prop) : σ → List ι → Prop
  | _, [] => True
  | s, i::is => G s i ∧ ∀ t out, step s i = some (t,out) → Guarded step G t is

instance decidableGuarded (step : Step σ ι ο) (G : σ → ι → Prop) [∀ s i, Decidable (G s i)] :
    (s : σ) → (is : List ι) → Decidable (Guarded step G s is)
  | _, [] => inferInstanceAs (Decidable True)
  | s, i::is =>
    match h : step s i with
    | some (t,out) =>
      have := decidableGuarded step G t is
      decidable_of_iff (G s i ∧ Guarded step G t is) (and_congr_right fun _ =>
        ⟨fun hg u a hu => by rw [h] at hu; cases hu; exact hg,fun hg => hg t out h⟩)
    | none => decidable_of_iff (G s i)
      ⟨fun hi => ⟨hi,fun u a hu => by rw [h] at hu; cases hu⟩,And.left⟩

variable {step : Step σ ι ο} {G : σ → ι → Prop} {P : σ → Prop} {s t : σ} {is : List ι}
  {out : List ο}

theorem run_cons {i : ι} :
    run step s (i::is) = some (t,out) ↔ ∃ u a b, step s i = some (u,a) ∧
      run step u is = some (t,b) ∧ out = a++b := by
  simp only [run, Option.bind_eq_some_iff, Option.map_eq_some_iff, Prod.exists, Prod.mk.injEq]
  constructor
  · rintro ⟨u,a,hu,v,b,hv,rfl,rfl⟩
    exact ⟨u,a,b,hu,hv,rfl⟩
  · rintro ⟨u,a,b,hu,hv,rfl⟩
    exact ⟨u,a,hu,t,b,hv,rfl,rfl⟩

theorem run_append {is js : List ι} :
    run step s (is++js) = some (t,out) ↔ ∃ u a b, run step s is = some (u,a) ∧
      run step u js = some (t,b) ∧ out = a++b := by
  induction is generalizing s out with
  | nil => simp [run]
  | cons i is ih =>
    rw [List.cons_append, run_cons]
    constructor
    · rintro ⟨u,a,b,hu,hr,rfl⟩
      obtain ⟨v,c,d,hv,hj,rfl⟩ := ih.mp hr
      exact ⟨v,a++c,d,run_cons.mpr ⟨u,a,c,hu,hv,rfl⟩,hj,by simp⟩
    · rintro ⟨v,e,d,hv,hj,rfl⟩
      obtain ⟨u,a,c,hu,hc,rfl⟩ := run_cons.mp hv
      exact ⟨u,a,c++d,hu,ih.mpr ⟨v,c,d,hc,hj,rfl⟩,by simp⟩

theorem guarded_append {is js : List ι} :
    Guarded step G s (is++js) ↔ Guarded step G s is ∧
      ∀ u a, run step s is = some (u,a) → Guarded step G u js := by
  induction is generalizing s with
  | nil => simp [Guarded, run]
  | cons i is ih =>
    simp only [List.cons_append, Guarded, ih, and_assoc, and_congr_right_iff]
    intro _
    constructor
    · intro h
      refine ⟨fun u a hu => (h u a hu).1,fun v e hv => ?_⟩
      obtain ⟨u,a,b,hu,hb,rfl⟩ := run_cons.mp hv
      exact (h u a hu).2 v b hb
    · rintro ⟨h,hr⟩ u a hu
      exact ⟨h u a hu,fun v b hv => hr v (a++b) (run_cons.mpr ⟨u,a,b,hu,hv,rfl⟩)⟩

theorem guarded_cons {i : ι} (hi : G s i)
    (hs : step s i = some (t,out)) (h : Guarded step G t is) : Guarded step G s (i::is) := by
  refine ⟨hi,fun u a hu => ?_⟩
  rw [hs] at hu
  cases hu
  exact h

theorem guarded_iff_reached : Guarded step G s is ↔
    ∀ before i after t a, is = before++i::after → run step s before = some (t,a) → G t i := by
  constructor
  · rintro h before i after t a rfl ht
    exact ((guarded_append.mp h).2 t a ht).1
  · intro h
    induction is generalizing s with
    | nil => trivial
    | cons i is ih =>
      refine ⟨h [] i is s [] rfl rfl,fun u b hu => ih ?_⟩
      rintro before j after t a rfl ht
      exact h (i::before) j after t (b++a) rfl (run_cons.mpr ⟨u,b,a,hu,ht,rfl⟩)

theorem guarded_of_forall (s : σ) (h : ∀ i ∈ is, ∀ s, G s i) :
    Guarded step G s is := by
  induction is generalizing s with
  | nil => trivial
  | cons i is ih =>
    exact ⟨h i (by simp) s,fun t _ _ => ih t fun j hj => h j (by simp [hj])⟩

theorem guarded_true (s : σ) (is : List ι) : Guarded step (fun _ _ => True) s is :=
  guarded_of_forall s fun _ _ _ => trivial

def Watched (step : Step σ ι ο) (W : σ → List ο → ι → Prop) : List ο → σ → List ι → Prop
  | _, _, [] => True
  | h, s, i::is => W s h i ∧ ∀ t out, step s i = some (t,out) → Watched step W (h++out) t is

/-- A property of the state and the outputs so far that every step under the
guard keeps holds at the end of every such run. -/
theorem run_watched_history {W : σ → List ο → ι → Prop} {P : σ → List ο → Prop}
    (hstep : ∀ s h i t out, P s h → W s h i → step s i = some (t,out) → P t (h++out))
    {h out : List ο} (hs : P s h) (hw : Watched step W h s is)
    (hr : run step s is = some (t,out)) : P t (h++out) := by
  induction is generalizing s h out with
  | nil =>
    cases hr
    simpa using hs
  | cons i is ih =>
    obtain ⟨u,a,b,hu,hb,rfl⟩ := run_cons.mp hr
    rw [← List.append_assoc]
    exact ih (hstep s h i u a hs hw.1 hu) (hw.2 u a hu) hb

theorem watched_of_guarded (hg : Guarded step G s is) (h : List ο) :
    Watched step (fun s _ i => G s i) h s is := by
  induction is generalizing s h with
  | nil => trivial
  | cons i is ih => exact ⟨hg.1,fun t out ht => ih (hg.2 t out ht) (h++out)⟩

theorem run_guarded_history {P : σ → List ο → Prop}
    (hstep : ∀ s h i t out, P s h → G s i → step s i = some (t,out) → P t (h++out))
    {h out : List ο} (hs : P s h) (hg : Guarded step G s is)
    (hr : run step s is = some (t,out)) : P t (h++out) :=
  run_watched_history hstep hs (watched_of_guarded hg h) hr

/-- Where no guarded step of a good state stops, no guarded run does. -/
theorem run_guarded_exists {Q : ο → Prop}
    (hstep : ∀ s i, P s → G s i → ∃ t out, step s i = some (t,out) ∧ P t ∧ ∀ o ∈ out, Q o)
    (hs : P s) (hg : Guarded step G s is) :
    ∃ t out, run step s is = some (t,out) ∧ P t ∧ ∀ o ∈ out, Q o := by
  induction is generalizing s with
  | nil => exact ⟨s,[],rfl,hs,fun o ho => absurd ho List.not_mem_nil⟩
  | cons i is ih =>
    obtain ⟨u,a,hu,hpu,ha⟩ := hstep s i hs hg.1
    obtain ⟨t,b,hb,hpt,hqb⟩ := ih hpu (hg.2 u a hu)
    refine ⟨t,a++b,run_cons.mpr ⟨u,a,b,hu,hb,rfl⟩,hpt,fun o ho => ?_⟩
    rcases List.mem_append.mp ho with ho | ho
    · exact ha o ho
    · exact hqb o ho

theorem run_history {P : σ → List ο → Prop}
    (hstep : ∀ s h i t out, P s h → step s i = some (t,out) → P t (h++out))
    {h out : List ο} (hs : P s h)
    (hr : run step s is = some (t,out)) : P t (h++out) :=
  run_guarded_history (fun s h i t out hp _ hu => hstep s h i t out hp hu) hs
    (guarded_true s is) hr

theorem run_guarded_invariant
    (hstep : ∀ s i t out, P s → G s i → step s i = some (t,out) → P t)
    (hs : P s) (hg : Guarded step G s is)
    (hr : run step s is = some (t,out)) : P t :=
  run_guarded_history (P := fun s _ => P s)
    (fun s _ i t out hp hi hu => hstep s i t out hp hi hu) (h := []) hs hg hr

theorem run_invariant
    (hstep : ∀ s i t out, P s → step s i = some (t,out) → P t)
    (hs : P s)
    (hr : run step s is = some (t,out)) : P t :=
  run_guarded_invariant (fun s i t out hp _ hu => hstep s i t out hp hu) hs
    (guarded_true s is) hr

theorem guarded_imp {H : σ → ι → Prop}
    (hstep : ∀ s i t out, P s → G s i → step s i = some (t,out) → P t)
    (himp : ∀ s i, P s → G s i → H s i) (hs : P s)
    (hg : Guarded step G s is) : Guarded step H s is := by
  induction is generalizing s with
  | nil => trivial
  | cons i is ih =>
    exact ⟨himp s i hs hg.1,fun t out ht => ih (hstep s i t out hs hg.1 ht) (hg.2 t out ht)⟩

theorem guarded_congr {H : σ → ι → Prop}
    (hstep : ∀ s i t out, P s → G s i → step s i = some (t,out) → P t)
    (hiff : ∀ s i, P s → (G s i ↔ H s i)) (hs : P s) (is : List ι) :
    Guarded step G s is ↔ Guarded step H s is :=
  ⟨guarded_imp hstep (fun s i hp => (hiff s i hp).mp) hs,
    guarded_imp (fun s i t out hp hi => hstep s i t out hp ((hiff s i hp).mpr hi))
      (fun s i hp => (hiff s i hp).mpr) hs⟩

def Along (step : Step σ ι ο) (R : σ → σ → Prop) (s : σ) (is : List ι) : Prop :=
  ∀ before between after t u a b, is = before++(between++after) →
    run step s before = some (t,a) → run step t between = some (u,b) → R t u

theorem run_guarded_rel {R : σ → σ → Prop} (hrefl : ∀ s, R s s)
    (htrans : ∀ s t u, R s t → R t u → R s u)
    (hg : Guarded step (fun s i => ∀ t out, step s i = some (t,out) → R s t) s is)
    (hr : run step s is = some (t,out)) : R s t := by
  induction is generalizing s out with
  | nil =>
    cases hr
    exact hrefl _
  | cons i is ih =>
    obtain ⟨u,a,b,hu,hb,rfl⟩ := run_cons.mp hr
    exact htrans s u t (hg.1 u a hu) (ih (hg.2 u a hu) hb)

/-- Steps that keep to a preorder are runs that keep to it. -/
theorem along_iff {R : σ → σ → Prop} (hrefl : ∀ s, R s s)
    (htrans : ∀ s t u, R s t → R t u → R s u) (s : σ) (is : List ι) : Along step R s is ↔
      Guarded step (fun s i => ∀ t out, step s i = some (t,out) → R s t) s is := by
  constructor
  · intro h
    induction is generalizing s with
    | nil => trivial
    | cons i is ih =>
      refine ⟨fun t out ht => h [] [i] is s t [] (out++[]) rfl rfl ?_,fun t out ht => ih t ?_⟩
      · exact run_cons.mpr ⟨t,out,[],ht,rfl,rfl⟩
      · rintro before between after u v a b rfl hu hv
        exact h (i::before) between after u v (out++a) b rfl
          (run_cons.mpr ⟨t,out,a,ht,hu,rfl⟩) hv
  · rintro h before between after t u a b rfl ht hu
    have hfrom := (guarded_append.mp h).2 t a ht
    exact run_guarded_rel hrefl htrans (guarded_append.mp hfrom).1 hu

def Always (step : Step σ ι ο) (P : σ → Prop) (s : σ) (is : List ι) : Prop :=
  ∀ before after t a, is = before++after → run step s before = some (t,a) → P t

theorem always_nil : Always step P s [] ↔ P s := by
  constructor
  · exact fun h => h [] [] s [] rfl rfl
  · intro h before after t a heq ht
    obtain ⟨rfl,rfl⟩ := List.nil_eq_append_iff.mp heq
    cases ht
    exact h

theorem always_cons {i : ι} : Always step P s (i::is) ↔
    P s ∧ ∀ t out, step s i = some (t,out) → Always step P t is := by
  constructor
  · intro h
    refine ⟨h [] (i::is) s [] rfl rfl,fun t out ht before after u a heq hu => ?_⟩
    exact h (i::before) after u (out++a) (by rw [heq]; rfl) (run_cons.mpr ⟨t,out,a,ht,hu,rfl⟩)
  · rintro ⟨hs,h⟩ (_ | ⟨j,before⟩) after u a heq hu
    · cases hu
      exact hs
    · obtain ⟨rfl,rfl⟩ := List.cons.inj heq
      obtain ⟨t,b,c,ht,hc,-⟩ := run_cons.mp hu
      exact h t b ht before after u c rfl hc

/-- Where a step keeps the property exactly if it meets the guard, a run has
it throughout exactly if all of its steps do. -/
theorem always_iff {I P : σ → Prop} (hinv : ∀ s i t out, I s → step s i = some (t,out) → I t)
    (hstop : ∀ s i, step s i = none → G s i)
    (hstep : ∀ s i t out, I s → P s → step s i = some (t,out) → (P t ↔ G s i))
    (hi : I s) (hs : P s) (is : List ι) :
    Always step P s is ↔ Guarded step G s is := by
  induction is generalizing s with
  | nil => exact iff_of_true (always_nil.mpr hs) trivial
  | cons i is ih =>
    rw [always_cons, Guarded]
    constructor
    · rintro ⟨-,h⟩
      have hnext (t : σ) (out : List ο) (ht : step s i = some (t,out)) : P t :=
        h t out ht [] is t [] rfl rfl
      refine ⟨?_,fun t out ht => (ih (hinv s i t out hi ht) (hnext t out ht)).mp (h t out ht)⟩
      cases ht : step s i with
      | none => exact hstop s i ht
      | some r => exact (hstep s i r.1 r.2 hi hs ht).mp (hnext r.1 r.2 ht)
    · rintro ⟨hg,h⟩
      exact ⟨hs,fun t out ht => (ih (hinv s i t out hi ht)
        ((hstep s i t out hi hs ht).mpr hg)).mpr (h t out ht)⟩

theorem always_congr {I P Q : σ → Prop} (hinv : ∀ s i t out, I s → step s i = some (t,out) → I t)
    (hiff : ∀ s, I s → (P s ↔ Q s)) (hi : I s) (is : List ι) :
    Always step P s is ↔ Always step Q s is := by
  have hreach {before : List ι} {t : σ} {a : List ο} (ht : run step s before = some (t,a)) :
      P t ↔ Q t := hiff t (run_invariant hinv hi ht)
  exact ⟨fun h before after t a heq ht => (hreach ht).mp (h before after t a heq ht),
    fun h before after t a heq ht => (hreach ht).mpr (h before after t a heq ht)⟩

instance decidableAlways (step : Step σ ι ο) (P : σ → Prop) [DecidablePred P] :
    (s : σ) → (is : List ι) → Decidable (Always step P s is)
  | s, [] => decidable_of_iff (P s) always_nil.symm
  | s, i::is =>
    match h : step s i with
    | some (t,out) =>
      have := decidableAlways step P t is
      decidable_of_iff (P s ∧ Always step P t is) (by simp [always_cons, h])
    | none => decidable_of_iff (P s) (by simp [always_cons, h])

section Erasure
variable {τ : Type*} {full : Step τ ι ο} {erase : τ → σ}
  (h : ∀ g i, step (erase g) i = (full g i).map (fun p => (erase p.1,p.2)))
include h

/-- A machine that only watches another, with more in its state, runs with it. -/
theorem run_erase (g : τ) (is : List ι) :
    run step (erase g) is = (run full g is).map (fun p => (erase p.1,p.2)) := by
  induction is generalizing g with
  | nil => rfl
  | cons i is ih =>
    rw [run, run, h]
    cases full g i with
    | none => rfl
    | some p =>
      simp only [Option.map_some, Option.bind_some, ih, Option.map_map]
      rfl

theorem always_erase (g : τ) (is : List ι) :
    Always full (fun g => P (erase g)) g is ↔ Always step P (erase g) is := by
  constructor
  · intro hall before after t a heq ht
    rw [run_erase h] at ht
    obtain ⟨⟨g',a'⟩,hg,hpair⟩ := Option.map_eq_some_iff.mp ht
    cases hpair
    exact hall before after g' _ heq hg
  · intro hall before after g' a heq hg
    refine hall before after (erase g') a heq ?_
    rw [run_erase h, hg]
    rfl

end Erasure

def total (f : σ → ι → σ × List ο) : Step σ ι ο := fun s i => some (f s i)

theorem total_eq_some {f : σ → ι → σ × List ο} {i : ι} :
    total f s i = some (t,out) ↔ t = (f s i).1 ∧ out = (f s i).2 := by
  simp only [total, Option.some.injEq, Prod.ext_iff, eq_comm]

theorem run_total (f : σ → ι → σ × List ο) (s : σ) (is : List ι) :
    ∃ t out, run (total f) s is = some (t,out) := by
  induction is generalizing s with
  | nil => exact ⟨s,[],rfl⟩
  | cons i is ih =>
    obtain ⟨t,b,hb⟩ := ih (f s i).1
    exact ⟨t,(f s i).2++b,run_cons.mpr ⟨_,_,b,rfl,hb,rfl⟩⟩

end RsipRtp.OutputMachine
