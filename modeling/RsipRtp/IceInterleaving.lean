import RsipRtp.IceSelection
import RsipRtp.OutputMachine

/-!
# Checks while candidates arrive

`start_checks` remembers positions in the pair list while it waits for the
network, and `add_remote_candidates` sorts that list anew.
-/

namespace RsipRtp.IceInterleaving
open OutputMachine StableSort IceAgent IcePairs IceSelection

/-- Where `start_checks` stands between two sections. -/
inductive Phase
  | idle
  | started
  | authorized
  | next (todo : List (ℕ × CandidatePair))
  | marked (idx : ℕ) (pair : CandidatePair) (todo : List (ℕ × CandidatePair))
  | found (idx : ℕ) (pair : CandidatePair) (socket : Bool) (todo : List (ℕ × CandidatePair))
  | checked (idx : ℕ) (pair : CandidatePair) (made result : Bool)
      (todo : List (ℕ × CandidatePair))
  | succeeded (idx : ℕ) (pair : CandidatePair)
  | fallback
  | done (result : Except IceError Unit)

/-- `pending` counts the calls of `add_remote_candidates` that have extended
the candidates and not formed the pairs yet, `performed` holds the pairs whose
check was made. -/
structure System where
  agent : Agent
  pending : ℕ
  phase : Phase
  performed : List CandidatePair

/-- A step of some `add_remote_candidates`, or of `start_checks` with what
the network has to say at that moment, or a new call of `start_checks` after
the last one has returned. -/
inductive Action
  | extend (candidates : List Candidate)
  | form
  | advance (reply : Bool)
  | restart

/-- An entry is set to succeeded or failed, or is stored as selected, on the
strength of some checks. -/
inductive Event
  | settled (checks : List CandidatePair) (entry : CandidatePair)
  | selected (checks : List CandidatePair) (entry : CandidatePair)

def Event.Backed : Event → Prop
  | .settled checks entry | .selected checks entry => ∃ c ∈ checks, core c = core entry

instance : DecidablePred Event.Backed
  | .settled checks entry => inferInstanceAs (Decidable (∃ c ∈ checks, core c = core entry))
  | .selected checks entry => inferInstanceAs (Decidable (∃ c ∈ checks, core c = core entry))

def advance (reply : Bool) (s : System) : Option (System × List Event) :=
  match s.phase with
  | .idle => some ({s with agent := beginChecks s.agent, phase := .started},[])
  | .started =>
    match remoteCredentials s.agent with
    | none => some ({s with phase := .fallback},[])
    | some _ => some ({s with phase := .authorized},[])
  | .authorized => some ({s with phase := .next (pairsToCheck s.agent)},[])
  | .next [] => some ({s with phase := .fallback},[])
  | .next ((idx,pair)::todo) => do
    let a ← markInProgress idx s.agent
    some ({s with agent := a, phase := .marked idx pair todo},[])
  | .marked idx pair todo =>
    some ({s with phase := .found idx pair (hasSocket pair s.agent) todo},[])
  | .found idx pair true todo =>
    some ({s with performed := pair::s.performed, phase := .checked idx pair true reply todo},[])
  | .found idx pair false todo => some ({s with phase := .checked idx pair false false todo},[])
  | .checked idx pair made result todo => do
    let (entry,a) ← settle idx result s.agent
    let checks := if made then [pair] else []
    if result then
      some ({s with agent := a, phase := .succeeded idx pair},
        [.settled checks entry,.selected checks entry])
    else some ({s with agent := a, phase := .next todo},[.settled checks entry])
  | .succeeded idx pair =>
    some ({s with agent := unfreezeRelatedPairs idx pair s.agent, phase := .done (.ok ())},[])
  | .fallback =>
    let (a,result) := fallbackSelection s.agent
    some ({s with agent := a, phase := .done result},
      (fallbackPair s.agent.candidatePairs).toList.map (.selected s.performed))
  | .done _ => some (s,[])

def step : Step System Action Event
  | s, .extend candidates =>
    some ({s with agent := extendRemote candidates s.agent, pending := s.pending+1},[])
  | s, .form =>
    if s.pending = 0 then some (s,[])
    else some ({s with agent := formCandidatePairs s.agent, pending := s.pending-1},[])
  | s, .advance reply => advance reply s
  | s, .restart =>
    match s.phase with
    | .done _ => some ({s with phase := .idle},[])
    | _ => some (s,[])

def start (a : Agent) : System where
  agent := a
  pending := 0
  phase := .idle
  performed := []

section Undisturbed

variable {outcome : ℕ → Bool}

/-- A round of the loop is four steps: mark, look for the socket, check,
settle. -/
theorem run_round {a b d : Agent} {idx : ℕ} {pair entry : CandidatePair} {reply : Bool}
    (pending : ℕ) (todo : List (ℕ × CandidatePair)) (performed : List CandidatePair)
    (hmark : markInProgress idx a = some b)
    (hsettle : settle idx (hasSocket pair b && reply) b = some (entry,d)) :
    ∃ performed' out, run step ⟨a,pending,.next ((idx,pair)::todo),performed⟩
        ((List.replicate 4 reply).map .advance) =
      some (⟨d,pending,if (hasSocket pair b && reply) = true then .succeeded idx pair
        else .next todo,performed'⟩,out) := by
  cases hsocket : hasSocket pair b with
  | true =>
    rw [hsocket, Bool.true_and] at hsettle
    refine ⟨pair::performed,
      if reply then [.settled [pair] entry,.selected [pair] entry] else [.settled [pair] entry],?_⟩
    simp only [run, List.replicate, List.map, step, advance, hmark, hsocket, hsettle,
      Option.bind_eq_bind, Option.bind_some, Bool.true_and]
    cases reply <;> rfl
  | false =>
    rw [hsocket, Bool.false_and] at hsettle
    refine ⟨performed,[.settled [] entry],?_⟩
    simp only [run, List.replicate, List.map, step, advance, hmark, hsocket, hsettle,
      Option.bind_eq_bind, Option.bind_some, Bool.false_and]
    rfl

/-- The loop of `start_checks` is a run with nothing in between. -/
theorem run_checkPairs {todo : List (ℕ × CandidatePair)} {a final : Agent} {log : List Check}
    {result : Except IceError Unit} (pending : ℕ) (performed : List CandidatePair)
    (h : checkPairs outcome todo a = some (final,log,result)) :
    ∃ (replies : List Bool) (t : System) (out : List Event),
      run step ⟨a,pending,.next todo,performed⟩ (replies.map .advance) = some (t,out) ∧
        t.agent = final ∧ t.phase = .done result := by
  induction todo generalizing a performed log with
  | nil =>
    cases h
    exact ⟨[false,false],_,_,rfl,rfl,rfl⟩
  | cons c todo ih =>
    obtain ⟨idx,pair⟩ := c
    simp only [checkPairs, Option.bind_eq_bind, Option.bind_eq_some_iff] at h
    obtain ⟨b,hmark,⟨entry,d⟩,hsettle,h⟩ := h
    obtain ⟨performed',out,hround⟩ := run_round pending todo performed hmark hsettle
    cases hresult : hasSocket pair b && outcome idx with
    | true =>
      rw [hresult] at h hround
      cases h
      refine ⟨List.replicate 4 (outcome idx)++[false],⟨_,pending,.done (.ok ()),performed'⟩,
        out++[],?_,rfl,rfl⟩
      rw [List.map_append]
      exact run_append.mpr ⟨_,out,[],hround,rfl,rfl⟩
    | false =>
      rw [hresult] at h hround
      simp only [Bool.false_eq_true, if_false, Option.bind_eq_some_iff] at h
      obtain ⟨⟨final',later,result'⟩,hrest,heq⟩ := h
      cases heq
      obtain ⟨replies,t,out',hrun,hagent,hphase⟩ := ih performed' hrest
      refine ⟨List.replicate 4 (outcome idx)++replies,t,out++out',?_,hagent,hphase⟩
      rw [List.map_append]
      exact run_append.mpr ⟨_,out,out',hround,hrun,rfl⟩

/-- The steps of `start_checks` alone do what `startChecks` does. -/
theorem run_startChecks {a final : Agent} {log : List Check} {result : Except IceError Unit}
    (h : startChecks outcome a = some (final,log,result)) :
    ∃ (replies : List Bool) (t : System) (out : List Event),
      run step (start a) (replies.map .advance) = some (t,out) ∧
        t.agent = final ∧ t.phase = .done result := by
  cases hcreds : remoteCredentials (beginChecks a) with
  | none =>
    rw [startChecks, hcreds] at h
    cases h
    refine ⟨[false,false,false],⟨(fallbackSelection (beginChecks a)).1,0,
      .done (fallbackSelection (beginChecks a)).2,(start a).performed⟩,
      (fallbackPair a.candidatePairs).toList.map (.selected (start a).performed),?_,rfl,rfl⟩
    simp only [run, List.map, step, advance, start, hcreds, Option.bind_some, Option.map_some,
      List.append_nil]
    rfl
  | some credentials =>
    rw [startChecks, hcreds] at h
    obtain ⟨replies,t,out,hrun,hagent,hphase⟩ := run_checkPairs 0 (start a).performed h
    refine ⟨[false,false,false]++replies,t,out,?_,hagent,hphase⟩
    rw [List.map_append]
    refine run_append.mpr ⟨_,[],out,?_,hrun,rfl⟩
    simp only [run, List.map, step, advance, start, hcreds, Option.bind_some, Option.map_some,
      List.append_nil]

end Undisturbed

theorem paired_checks_alone : ∃ final log result,
    startChecks (fun _ => true) (pairedAgent .waiting) = some (final,log,result) ∧
      ∃ (replies : List Bool) (t : System) (out : List Event),
        run step (start (pairedAgent .waiting)) (replies.map .advance) = some (t,out) ∧
          t.agent = final ∧ t.phase = .done result :=
  ⟨_,_,_,rfl,@run_startChecks (fun _ => true) (pairedAgent .waiting) _ _ _ rfl⟩

section Invariant

variable {a b : Agent} {performed : List CandidatePair}

/-- The positions that `start_checks` still holds. -/
def held : Phase → List (ℕ × CandidatePair)
  | .next todo => todo
  | .marked idx pair todo | .found idx pair _ todo | .checked idx pair _ _ todo => (idx,pair)::todo
  | _ => []

/-- What each action must meet. While positions are held, the pairs that are
formed rank no higher than the pairs of the list. There is a socket for a
pair that is to be checked. When it comes to the fallback, every pair has
failed. -/
def Orderly (s : System) : Action → Prop
  | .extend _ | .restart => True
  | .form => held s.phase ≠ [] → ∀ q, MissingFrom s.agent q →
      ∀ p ∈ s.agent.candidatePairs, pairKey q ≤ pairKey p
  | .advance _ =>
    match s.phase with
    | .marked _ pair _ => hasSocket pair s.agent = true
    | .fallback => ∀ p ∈ s.agent.candidatePairs, p.state = .failed
    | _ => True

structure ListSound (a : Agent) (performed : List CandidatePair) : Prop where
  descending : Descending pairKey a.candidatePairs
  failed : ∀ p ∈ a.candidatePairs, p.state = .failed → ∃ c ∈ performed, core c = core p

def CheckMade (performed : List CandidatePair) : Phase → Prop
  | .found _ _ socket _ => socket = true
  | .checked _ pair made _ _ => made = true ∧ pair ∈ performed
  | _ => True

structure Sound (s : System) : Prop where
  list : ListSound s.agent s.performed
  listed : ∀ c ∈ held s.phase, Listed s.agent c
  made : CheckMade s.performed s.phase

theorem ListSound.keep {performed' : List CandidatePair} (h : ListSound a performed)
    (hplaces : SamePlaces a b) (hsub : performed ⊆ performed')
    (hfailed : ∀ p ∈ b.candidatePairs, p.state = .failed →
      p ∈ a.candidatePairs ∨ ∃ c ∈ performed', core c = core p) : ListSound b performed' where
  descending := (descending_congr hplaces.cores).mpr h.descending
  failed p hp hstate := by
    rcases hfailed p hp hstate with hold | hnew
    · obtain ⟨c,hc,hcore⟩ := h.failed p hold hstate
      exact ⟨c,hsub hc,hcore⟩
    · exact hnew

theorem ListSound.mark {idx : ℕ} {pair : CandidatePair} (h : ListSound a performed)
    (hlisted : Listed a (idx,pair)) (hmark : markInProgress idx a = some b) :
    ListSound b performed ∧ SamePlaces a b := by
  obtain ⟨entry,c,hspec,hentry,hchanged⟩ := markInProgress_listed hlisted
  obtain rfl : c = b := Option.some.inj (hspec.symm.trans hmark)
  refine ⟨h.keep hchanged.places (List.Subset.refl _) ?_,hchanged.places⟩
  intro p hp hstate
  rcases hchanged.pairs p hp with hp | rfl
  · exact .inl hp
  · rw [hentry] at hstate
    cases hstate

theorem ListSound.settle {idx : ℕ} {pair entry : CandidatePair} {result : Bool}
    (h : ListSound a performed) (hlisted : Listed a (idx,pair)) (hpair : pair ∈ performed)
    (hsettle : settle idx result a = some (entry,b)) :
    ListSound b performed ∧ SamePlaces a b ∧ core pair = core entry := by
  obtain ⟨entry',c,hspec,hcore,hchanged,-⟩ := settle_listed result hlisted
  rw [hspec] at hsettle
  cases hsettle
  refine ⟨h.keep hchanged.places (List.Subset.refl _) ?_,hchanged.places,hcore.symm⟩
  intro p hp _
  rcases hchanged.pairs p hp with hp | rfl
  · exact .inl hp
  · exact .inr ⟨pair,hpair,hcore.symm⟩

theorem ListSound.unfreeze (h : ListSound a performed) (idx : ℕ) (pair : CandidatePair) :
    ListSound (unfreezeRelatedPairs idx pair a) performed := by
  refine h.keep (unfreezeRelatedPairs_places idx pair a) (List.Subset.refl _) ?_
  intro p hp hstate
  obtain ⟨i,hi,rfl⟩ := List.mem_mapIdx.mp hp
  split_ifs at hstate ⊢
  exact .inl (List.getElem_mem hi)

theorem ListSound.form (h : ListSound a performed) :
    ListSound (formCandidatePairs a) performed := by
  obtain ⟨added,hmem,hform,-⟩ := formed_eq a
  refine ⟨form_descending a,fun p hp hstate => ?_⟩
  rw [hform] at hp
  rcases mem_unfreezeFirst hp with hwaiting | hp
  · rw [hwaiting] at hstate
    cases hstate
  · rcases List.mem_append.mp ((sortDesc_perm _ _).mem_iff.mp hp) with hp | hp
    · exact h.failed p hp hstate
    · rw [missing_state ((hmem p).mp hp)] at hstate
      cases hstate

theorem form_listed {c : ℕ × CandidatePair} (hsorted : Descending pairKey a.candidatePairs)
    (hrank : ∀ q, MissingFrom a q → ∀ p ∈ a.candidatePairs, pairKey q ≤ pairKey p)
    (h : Listed a c) : Listed (formCandidatePairs a) c := by
  obtain ⟨added,hmem,hform,-⟩ := formed_eq a
  have hbehind : ∀ q ∈ added, ∀ p ∈ a.candidatePairs, pairKey q ≤ pairKey p :=
    fun q hq => hrank q ((hmem q).mp hq)
  have hcore : (formCandidatePairs a).candidatePairs.map core =
      a.candidatePairs.map core++(sortDesc pairKey added).map core := by
    rw [hform, unfreezeFirst_core, sortDesc_append hsorted hbehind, List.map_append]
  have hlt : c.1 < (a.candidatePairs.map core).length := (List.getElem?_eq_some_iff.mp h).1
  rw [Listed, hcore, List.getElem?_append_left hlt]
  exact h

end Invariant

section Steps

variable {s t : System} {out : List Event} {reply : Bool}

theorem advance_sound (h : Sound s) (hg : Orderly s (.advance reply))
    (hs : advance reply s = some (t,out)) : Sound t ∧ ∀ e ∈ out, e.Backed := by
  obtain ⟨a,pending,phase,performed⟩ := s
  obtain ⟨hlist,hlisted,hmade⟩ := h
  have hquiet : ∀ e ∈ ([] : List Event), e.Backed := fun e he => absurd he List.not_mem_nil
  have hnone : ∀ c ∈ ([] : List (ℕ × CandidatePair)), Listed a c :=
    fun c hc => absurd hc List.not_mem_nil
  cases phase with
  | idle =>
    cases hs
    exact ⟨⟨⟨hlist.descending,hlist.failed⟩,hnone,trivial⟩,hquiet⟩
  | started =>
    simp only [advance] at hs
    split at hs
    · cases hs
      exact ⟨⟨hlist,hnone,trivial⟩,hquiet⟩
    · cases hs
      exact ⟨⟨hlist,hnone,trivial⟩,hquiet⟩
  | authorized =>
    cases hs
    exact ⟨⟨hlist,fun c hc => listed_of_getElem? (mem_pairsToCheck.mp hc).1,trivial⟩,hquiet⟩
  | next todo =>
    cases todo with
    | nil =>
      cases hs
      exact ⟨⟨hlist,hnone,trivial⟩,hquiet⟩
    | cons c todo =>
      obtain ⟨idx,pair⟩ := c
      simp only [advance, Option.bind_eq_bind, Option.bind_eq_some_iff] at hs
      obtain ⟨b,hmark,hs⟩ := hs
      cases hs
      obtain ⟨hb,hplaces⟩ := hlist.mark (hlisted _ List.mem_cons_self) hmark
      exact ⟨⟨hb,fun c hc => hplaces.listed (hlisted c hc),trivial⟩,hquiet⟩
  | marked idx pair todo =>
    cases hs
    exact ⟨⟨hlist,hlisted,hg⟩,hquiet⟩
  | found idx pair socket todo =>
    obtain rfl : socket = true := hmade
    cases hs
    refine ⟨⟨hlist.keep ⟨rfl,rfl⟩ (List.subset_cons_self _ _) (fun p hp _ => .inl hp),hlisted,
      rfl,List.mem_cons_self⟩,hquiet⟩
  | checked idx pair made result todo =>
    obtain ⟨rfl,hpair⟩ := hmade
    simp only [advance, Option.bind_eq_bind, Option.bind_eq_some_iff] at hs
    obtain ⟨⟨entry,b⟩,hsettle,hs⟩ := hs
    obtain ⟨hb,hplaces,hcore⟩ := hlist.settle (hlisted _ List.mem_cons_self) hpair hsettle
    have hbacked : ∃ c ∈ [pair], core c = core entry := ⟨pair,List.mem_singleton_self _,hcore⟩
    cases result with
    | true =>
      cases hs
      refine ⟨⟨hb,fun c hc => absurd hc List.not_mem_nil,trivial⟩,fun e he => ?_⟩
      rcases List.mem_pair.mp he with rfl | rfl
      · exact hbacked
      · exact hbacked
    | false =>
      cases hs
      refine ⟨⟨hb,fun c hc => hplaces.listed (hlisted c (List.mem_cons_of_mem _ hc)),trivial⟩,
        fun e he => ?_⟩
      rw [List.mem_singleton.mp he]
      exact hbacked
  | succeeded idx pair =>
    cases hs
    exact ⟨⟨hlist.unfreeze idx pair,fun c hc => absurd hc List.not_mem_nil,trivial⟩,hquiet⟩
  | fallback =>
    cases hs
    refine ⟨⟨?_,fun c hc => absurd hc List.not_mem_nil,trivial⟩,fun e he => ?_⟩
    · exact hlist.keep (fallbackSelection_places a) (List.Subset.refl _)
        (fun p hp _ => .inl (fallbackSelection_pairs a ▸ hp))
    · obtain ⟨pick,hpick,rfl⟩ := List.mem_map.mp he
      have hmem : pick ∈ a.candidatePairs := fallbackPair_mem (Option.mem_toList.mp hpick)
      exact hlist.failed pick hmem (hg pick hmem)
  | done result =>
    cases hs
    exact ⟨⟨hlist,hlisted,hmade⟩,hquiet⟩

/-- The pairs at the positions are there: no `expect` fails. -/
theorem advance_exists (reply : Bool) (h : Sound s) : ∃ t out, advance reply s = some (t,out) := by
  obtain ⟨a,pending,phase,performed⟩ := s
  obtain ⟨-,hlisted,-⟩ := h
  cases phase with
  | idle | authorized | marked | succeeded | fallback | done => exact ⟨_,_,rfl⟩
  | started =>
    simp only [advance]
    split <;> exact ⟨_,_,rfl⟩
  | next todo =>
    cases todo with
    | nil => exact ⟨_,_,rfl⟩
    | cons c todo =>
      obtain ⟨-,b,hmark,-⟩ := markInProgress_listed (hlisted c List.mem_cons_self)
      simp only [advance, hmark, Option.bind_eq_bind, Option.bind_some]
      exact ⟨_,_,rfl⟩
  | found idx pair socket todo =>
    cases socket <;> exact ⟨_,_,rfl⟩
  | checked idx pair made result todo =>
    obtain ⟨entry,b,hsettle,-⟩ := settle_listed result (hlisted _ List.mem_cons_self)
    simp only [advance, hsettle, Option.bind_eq_bind, Option.bind_some]
    cases result <;> exact ⟨_,_,rfl⟩

theorem step_sound (s : System) (action : Action) (h : Sound s) (hg : Orderly s action) :
    ∃ t out, step s action = some (t,out) ∧ Sound t ∧ ∀ e ∈ out, e.Backed := by
  have hquiet : ∀ e ∈ ([] : List Event), e.Backed := fun e he => absurd he List.not_mem_nil
  cases action with
  | extend candidates =>
    exact ⟨_,_,rfl,⟨⟨h.list.descending,h.list.failed⟩,h.listed,h.made⟩,hquiet⟩
  | form =>
    by_cases hpending : s.pending = 0
    · exact ⟨s,[],if_pos hpending,h,hquiet⟩
    · refine ⟨_,[],if_neg hpending,⟨h.list.form,fun c hc => ?_,h.made⟩,hquiet⟩
      exact form_listed h.list.descending (hg (List.ne_nil_of_mem hc)) (h.listed c hc)
  | advance reply =>
    obtain ⟨t,out,hs⟩ := advance_exists reply h
    exact ⟨t,out,hs,advance_sound h hg hs⟩
  | restart =>
    simp only [step]
    split
    · exact ⟨_,_,rfl,⟨h.list,fun c hc => absurd hc List.not_mem_nil,trivial⟩,hquiet⟩
    · exact ⟨s,[],rfl,h,hquiet⟩

theorem start_sound {a : Agent} (h : Descending pairKey a.candidatePairs)
    (hfresh : ∀ p ∈ a.candidatePairs, p.state ≠ .failed) : Sound (start a) where
  list := ⟨h,fun p hp hstate => absurd hstate (hfresh p hp)⟩
  listed _ hc := absurd hc List.not_mem_nil
  made := trivial

end Steps

/-- In every interleaving that is orderly at every step, from an agent that has
not failed any pair yet, nothing panics, and every pair that is set to succeeded
or failed or stored as selected is a pair whose check was made in the run. -/
theorem orderly_run_backed {a : Agent} {actions : List Action}
    (hsorted : Descending pairKey a.candidatePairs)
    (hfresh : ∀ p ∈ a.candidatePairs, p.state ≠ .failed)
    (hg : Guarded step Orderly (start a) actions) :
    ∃ t out, run step (start a) actions = some (t,out) ∧ ∀ e ∈ out, e.Backed := by
  obtain ⟨t,out,hrun,-,hbacked⟩ := run_guarded_exists step_sound (start_sound hsorted hfresh) hg
  exact ⟨t,out,hrun,hbacked⟩

def arrival (late : Candidate) : List Action :=
  List.replicate 5 (.advance false)++[.extend [late],.form,.advance true,.advance true]

/-- A candidate that ranks lower does no harm. -/
theorem low_arrival_backed : ∃ t out,
    run step (start (pairedAgent .waiting)) (arrival (hostCandidate 3 5)) = some (t,out) ∧
      ∀ e ∈ out, e.Backed := by
  refine orderly_run_backed (List.pairwise_singleton _ _) (by decide) ?_
  refine guarded_cons trivial rfl (guarded_cons trivial rfl (guarded_cons trivial rfl
    (guarded_cons trivial rfl (guarded_cons (Eq.refl true) rfl (guarded_cons trivial rfl
    (guarded_cons ?_ rfl (guarded_cons trivial rfl (guarded_cons trivial rfl trivial))))))))
  rintro - q ⟨before,l,r,behind,hsplit,-,-,-,rfl⟩ p hp
  have hmem : (l,r) ∈ before++(l,r)::behind := List.mem_append_right before List.mem_cons_self
  rw [← hsplit] at hmem
  obtain rfl := List.mem_singleton.mp hp
  rcases List.mem_pair.mp hmem with h | h
  · cases h
    decide +kernel
  · cases h
    decide +kernel

/-- A candidate that ranks higher takes the position of the pair that is
checked: its pair is marked as succeeded and selected, unchecked. -/
theorem high_arrival_selected : ∃ t out,
    run step (start (pairedAgent .waiting)) (arrival (hostCandidate 3 20)) = some (t,out) ∧
      t.performed.map CandidatePair.remoteCand = [hostCandidate 2 10] ∧
      t.agent.selectedPair.map CandidatePair.remoteCand = some (hostCandidate 3 20) ∧
      ¬∀ e ∈ out, e.Backed := by
  refine ⟨_,_,rfl,?_,?_,?_⟩
  · decide +kernel
  · decide +kernel
  · decide +kernel

end RsipRtp.IceInterleaving
