import RsipRtp.IceAgent

/-!
# What new candidates do to the check list

Forming pairs adds what is missing, sorts, and sets the first pair of each
foundation to waiting. The list stays free of doubles, sorted and complete.
-/

namespace RsipRtp.IcePairs
open SipText StunBinding StableSort IceAgent

variable {p : CandidatePair}

section Adding

variable {role : IceRole} {pairs : List CandidatePair} {combos : List (Candidate × Candidate)}

def combinations (localCands remoteCands : List Candidate) : List (Candidate × Candidate) :=
  localCands.flatMap (fun l => remoteCands.map (fun r => (l,r)))

def addCombos (role : IceRole) (combos : List (Candidate × Candidate))
    (pairs : List CandidatePair) : List CandidatePair :=
  combos.foldl (fun pairs c => addPair role pairs c.1 c.2) pairs

theorem addPairs_eq (localCands remoteCands : List Candidate) :
    addPairs role localCands remoteCands pairs =
      addCombos role (combinations localCands remoteCands) pairs := by
  simp only [addPairs, addCombos, combinations, List.foldl_flatMap, List.foldl_map]

/-- A pair that is missing from a list: no pair of the list joins its
addresses, and neither does an earlier compatible combination. -/
def Missing (role : IceRole) (combos : List (Candidate × Candidate))
    (pairs : List CandidatePair) (q : CandidatePair) : Prop :=
  ∃ before l r behind, combos = before++(l,r)::behind ∧ compatible l r = true ∧
    (∀ p ∈ pairs, joins p l r = false) ∧
    (∀ c ∈ before, compatible c.1 c.2 = true → c.1.address = l.address →
      c.2.address ≠ r.address) ∧ q = newPair role l r

theorem addPair_cases (role : IceRole) (pairs : List CandidatePair) (l r : Candidate) :
    (compatible l r = true ∧ (∀ p ∈ pairs, joins p l r = false) ∧
      addPair role pairs l r = pairs++[newPair role l r]) ∨
    (compatible l r = true → ∃ p ∈ pairs, joins p l r = true) ∧ addPair role pairs l r = pairs := by
  unfold addPair
  by_cases h : (compatible l r && !pairs.any (fun p => joins p l r)) = true
  · rw [if_pos h]
    simp only [Bool.and_eq_true, Bool.not_eq_true', List.any_eq_false, Bool.not_eq_true] at h
    exact .inl ⟨h.1,h.2,rfl⟩
  · rw [if_neg h]
    refine .inr ⟨fun hc => ?_,rfl⟩
    simpa [hc] using h

theorem addCombos_cons (c : Candidate × Candidate) : addCombos role (c::combos) pairs =
    addCombos role combos (addPair role pairs c.1 c.2) := rfl

theorem joins_newPair (l r l' r' : Candidate) :
    joins (newPair role l r) l' r' = true ↔ l.address = l'.address ∧ r.address = r'.address := by
  simp only [joins, newPair, Bool.and_eq_true, beq_iff_eq]

theorem missing_cons_added {l r : Candidate} {q : CandidatePair} (hc : compatible l r = true)
    (hnone : ∀ p ∈ pairs, joins p l r = false) : Missing role ((l,r)::combos) pairs q ↔
      q = newPair role l r ∨ Missing role combos (pairs++[newPair role l r]) q := by
  constructor
  · rintro ⟨before,l',r',behind,hsplit,hc',hnone',hfirst,rfl⟩
    cases before with
    | nil =>
      cases hsplit
      exact .inl rfl
    | cons c before =>
      cases hsplit
      refine .inr ⟨before,l',r',behind,rfl,hc',?_,
        fun c hmem => hfirst c (List.mem_cons_of_mem _ hmem),rfl⟩
      intro p hp
      rcases List.mem_append.mp hp with hp | hp
      · exact hnone' p hp
      · obtain rfl := List.mem_singleton.mp hp
        rw [← Bool.not_eq_true, joins_newPair]
        exact fun h => hfirst (l,r) List.mem_cons_self hc h.1 h.2
  · rintro (rfl | ⟨before,l',r',behind,rfl,hc',hnone',hfirst,rfl⟩)
    · exact ⟨[],l,r,combos,rfl,hc,hnone,fun _ h => absurd h List.not_mem_nil,rfl⟩
    · refine ⟨(l,r)::before,l',r',behind,rfl,hc',
        fun p hp => hnone' p (List.mem_append_left _ hp),?_,rfl⟩
      intro c hmem hcomp hl hr
      rcases List.mem_cons.mp hmem with rfl | hmem
      · have hnew := hnone' (newPair role l r) (by simp)
        rw [(joins_newPair l r l' r').mpr ⟨hl,hr⟩] at hnew
        cases hnew
      · exact hfirst c hmem hcomp hl hr

theorem missing_cons_skipped {l r : Candidate} {q : CandidatePair}
    (hexists : compatible l r = true → ∃ p ∈ pairs, joins p l r = true) :
    Missing role ((l,r)::combos) pairs q ↔ Missing role combos pairs q := by
  constructor
  · rintro ⟨before,l',r',behind,hsplit,hc',hnone',hfirst,rfl⟩
    cases before with
    | nil =>
      cases hsplit
      obtain ⟨p,hp,hjoins⟩ := hexists hc'
      rw [hnone' p hp] at hjoins
      cases hjoins
    | cons c before =>
      cases hsplit
      exact ⟨before,l',r',behind,rfl,hc',hnone',
        fun c hmem => hfirst c (List.mem_cons_of_mem _ hmem),rfl⟩
  · rintro ⟨before,l',r',behind,rfl,hc',hnone',hfirst,rfl⟩
    refine ⟨(l,r)::before,l',r',behind,rfl,hc',hnone',?_,rfl⟩
    intro c hmem hcomp hl hr
    rcases List.mem_cons.mp hmem with rfl | hmem
    · obtain ⟨p,hp,hjoins⟩ := hexists hcomp
      have hp' := hnone' p hp
      unfold joins at hp' hjoins
      rw [hl, hr] at hjoins
      rw [hjoins] at hp'
      cases hp'
    · exact hfirst c hmem hcomp hl hr

theorem addCombos_append (role : IceRole) (combos : List (Candidate × Candidate))
    (pairs : List CandidatePair) : ∃ added, addCombos role combos pairs = pairs++added ∧
      ∀ q, q ∈ added ↔ Missing role combos pairs q := by
  induction combos generalizing pairs with
  | nil =>
    refine ⟨[],(List.append_nil _).symm,fun q => ⟨fun h => absurd h List.not_mem_nil,?_⟩⟩
    rintro ⟨before,l,r,behind,h,-⟩
    cases before <;> cases h
  | cons c combos ih =>
    obtain ⟨l,r⟩ := c
    obtain ⟨added,hadd,hmem⟩ := ih (addPair role pairs l r)
    rcases addPair_cases role pairs l r with ⟨hc,hnone,hpair⟩ | ⟨hexists,hpair⟩
    · refine ⟨newPair role l r::added,?_,fun q => ?_⟩
      · rw [addCombos_cons, hadd, hpair, List.append_assoc]
        rfl
      · rw [List.mem_cons, hmem, hpair, missing_cons_added hc hnone]
    · refine ⟨added,by rw [addCombos_cons, hadd, hpair],fun q => ?_⟩
      rw [hmem, hpair, missing_cons_skipped hexists]

theorem addCombos_complete {c : Candidate × Candidate} (hc : c ∈ combos)
    (hcomp : compatible c.1 c.2 = true) :
    ∃ p ∈ addCombos role combos pairs, joins p c.1 c.2 = true := by
  induction combos generalizing pairs with
  | nil => cases hc
  | cons d combos ih =>
    rw [addCombos_cons]
    rcases List.mem_cons.mp hc with rfl | hc
    · obtain ⟨added,hadd,-⟩ := addCombos_append role combos (addPair role pairs c.1 c.2)
      rw [hadd]
      rcases addPair_cases role pairs c.1 c.2 with ⟨-,-,hpair⟩ | ⟨hexists,hpair⟩
      · rw [hpair]
        exact ⟨newPair role c.1 c.2,by simp,(joins_newPair ..).mpr ⟨rfl,rfl⟩⟩
      · obtain ⟨p,hp,hjoins⟩ := hexists hcomp
        rw [hpair]
        exact ⟨p,List.mem_append_left _ hp,hjoins⟩
    · exact ih hc

def ends (p : CandidatePair) : StunMessage.SocketAddr × StunMessage.SocketAddr :=
  (p.localCand.address,p.remoteCand.address)

def Distinct (pairs : List CandidatePair) : Prop := (pairs.map ends).Nodup

theorem addCombos_distinct (h : Distinct pairs) : Distinct (addCombos role combos pairs) := by
  induction combos generalizing pairs with
  | nil => exact h
  | cons c combos ih =>
    rw [addCombos_cons]
    apply ih
    rcases addPair_cases role pairs c.1 c.2 with ⟨-,hnone,hpair⟩ | ⟨-,hpair⟩
    · rw [hpair, Distinct, List.map_append, List.map_singleton]
      refine List.nodup_append.mpr ⟨h,List.nodup_singleton _,?_⟩
      intro x hx y hy heq
      obtain ⟨p,hp,rfl⟩ := List.mem_map.mp hx
      rw [List.mem_singleton.mp hy] at heq
      have hjoins : joins p c.1 c.2 = true := by
        simpa [joins, ends, newPair] using heq
      rw [hnone p hp] at hjoins
      cases hjoins
    · rw [hpair]
      exact h

end Adding

theorem unfreezeFirst_core (seen : List (Text × Text)) (pairs : List CandidatePair) :
    (unfreezeFirst seen pairs).map core = pairs.map core := by
  induction pairs generalizing seen with
  | nil => rfl
  | cons p pairs ih =>
    rw [unfreezeFirst]
    split_ifs
    · rw [List.map_cons, List.map_cons, ih]
    · rw [List.map_cons, List.map_cons, ih]
      rfl

theorem mem_unfreezeFirst {seen : List (Text × Text)} {pairs : List CandidatePair}
    (h : p ∈ unfreezeFirst seen pairs) : p.state = .waiting ∨ p ∈ pairs := by
  induction pairs generalizing seen with
  | nil => cases h
  | cons q pairs ih =>
    rw [unfreezeFirst] at h
    split_ifs at h
    · rcases List.mem_cons.mp h with rfl | h
      · exact .inr List.mem_cons_self
      · exact (ih h).imp_right (List.mem_cons_of_mem q)
    · rcases List.mem_cons.mp h with rfl | h
      · exact .inl rfl
      · exact (ih h).imp_right (List.mem_cons_of_mem q)

theorem descending_congr {pairs pairs' : List CandidatePair}
    (h : pairs'.map core = pairs.map core) :
    Descending pairKey pairs' ↔ Descending pairKey pairs := by
  have hcore (pairs : List CandidatePair) : Descending pairKey pairs ↔
      (pairs.map core).Pairwise (fun c d => d.2.2.toNat ≤ c.2.2.toNat) := by
    rw [List.pairwise_map]
    rfl
  rw [hcore, hcore, h]

def checked (p : CandidatePair) : Bool :=
  p.state == .inProgress || p.state == .succeeded || p.state == .failed

theorem checked_state (h : checked p = true) :
    p.state ≠ .waiting ∧ p.state ≠ .frozen := by
  constructor <;>
  · intro hs
    rw [checked, hs] at h
    cases h

def sameFoundations (p q : CandidatePair) : Bool := foundations q == foundations p

theorem unfreezeFirst_count (hp : checked p = true)
    (seen : List (Text × Text)) (pairs : List CandidatePair) :
    (unfreezeFirst seen pairs).count p +
      (if foundations p ∉ seen ∧ pairs.find? (sameFoundations p) = some p then 1 else 0) =
        pairs.count p := by
  induction pairs generalizing seen with
  | nil =>
    rw [if_neg (fun h => nomatch h.2)]
    rfl
  | cons q pairs ih =>
    have hwaiting : ({q with state := .waiting} : CandidatePair) ≠ p :=
      fun h => (checked_state hp).1 (h ▸ rfl)
    by_cases hq : foundations q = foundations p
    · have hsame : sameFoundations p q = true := beq_iff_eq.mpr hq
      rw [unfreezeFirst, List.find?_cons, hsame]
      by_cases hseen : foundations p ∈ seen
      · rw [if_pos (hq ▸ hseen), if_neg (fun h => h.1 hseen), List.count_cons, List.count_cons]
        have hrest := ih seen
        rw [if_neg (fun h => h.1 hseen)] at hrest
        omega
      · rw [if_neg (hq ▸ hseen), List.count_cons_of_ne hwaiting]
        have hrest := ih (foundations q::seen)
        rw [if_neg (fun h => h.1 (hq ▸ List.mem_cons_self))] at hrest
        by_cases heq : q = p
        · rw [if_pos ⟨hseen,congrArg some heq⟩, heq, List.count_cons_self]
          rw [heq] at hrest
          omega
        · rw [if_neg (fun h => heq (Option.some.inj h.2)), List.count_cons_of_ne heq]
          exact hrest
    · have hsame : sameFoundations p q = false := beq_eq_false_iff_ne.mpr hq
      have hne : q ≠ p := fun h => hq (h ▸ rfl)
      have hskip (seen' : List (Text × Text))
          (hseen : foundations p ∈ seen' ↔ foundations p ∈ seen) :
          (unfreezeFirst seen' pairs).count p +
            (if foundations p ∉ seen ∧ pairs.find? (sameFoundations p) = some p then 1 else 0) =
              pairs.count p := by
        have hrest := ih seen'
        simp only [hseen] at hrest
        exact hrest
      rw [unfreezeFirst, List.find?_cons, hsame, List.count_cons_of_ne hne]
      by_cases hseen : foundations q ∈ seen
      · rw [if_pos hseen, List.count_cons_of_ne hne]
        exact hskip seen Iff.rfl
      · rw [if_neg hseen, List.count_cons_of_ne hwaiting]
        exact hskip (foundations q::seen) (by simp [Ne.symm hq])

section Forming

variable {a : Agent}

def MissingFrom (a : Agent) (q : CandidatePair) : Prop :=
  Missing a.role (combinations a.localCandidates a.remoteCandidates) a.candidatePairs q

theorem formed_eq (a : Agent) : ∃ added, (∀ q, q ∈ added ↔ MissingFrom a q) ∧
    (formCandidatePairs a).candidatePairs =
      unfreezeFirst [] (sortDesc pairKey (a.candidatePairs++added)) ∧
    addCombos a.role (combinations a.localCandidates a.remoteCandidates) a.candidatePairs =
      a.candidatePairs++added := by
  obtain ⟨added,hadd,hmem⟩ := addCombos_append a.role
    (combinations a.localCandidates a.remoteCandidates) a.candidatePairs
  refine ⟨added,hmem,?_,hadd⟩
  rw [formCandidatePairs, addPairs_eq, hadd]

theorem form_core (a : Agent) : ((formCandidatePairs a).candidatePairs.map core).Perm
    ((addCombos a.role (combinations a.localCandidates a.remoteCandidates)
      a.candidatePairs).map core) := by
  rw [formCandidatePairs, addPairs_eq, unfreezeFirst_core]
  exact (sortDesc_perm _ _).map core

theorem form_descending (a : Agent) : Descending pairKey (formCandidatePairs a).candidatePairs :=
  (descending_congr (unfreezeFirst_core _ _)).mpr (sortDesc_descending _ _)

theorem form_distinct (h : Distinct a.candidatePairs) :
    Distinct (formCandidatePairs a).candidatePairs := by
  have hends (pairs : List CandidatePair) : pairs.map ends =
      (pairs.map core).map (fun c => (c.1.address,c.2.1.address)) := by
    rw [List.map_map]
    rfl
  rw [Distinct, hends, ((form_core a).map _).nodup_iff, ← hends]
  exact addCombos_distinct h

def Complete (a : Agent) : Prop :=
  ∀ l ∈ a.localCandidates, ∀ r ∈ a.remoteCandidates, compatible l r = true →
    ∃ p ∈ a.candidatePairs, joins p l r = true

theorem form_complete (a : Agent) : Complete (formCandidatePairs a) := by
  intro l hl r hr hc
  have hmem : (l,r) ∈ combinations a.localCandidates a.remoteCandidates :=
    List.mem_flatMap.mpr ⟨l,hl,List.mem_map.mpr ⟨r,hr,rfl⟩⟩
  have hadded : ∃ p ∈ addCombos a.role (combinations a.localCandidates a.remoteCandidates)
      a.candidatePairs, joins p l r = true := addCombos_complete hmem hc
  obtain ⟨p,hp,hjoins⟩ := hadded
  obtain ⟨p',hp',hcore⟩ := List.mem_map.mp ((form_core a).mem_iff.mpr (List.mem_map_of_mem hp))
  refine ⟨p',hp',?_⟩
  rw [core, core, Prod.mk.injEq, Prod.mk.injEq] at hcore
  rw [joins, hcore.1, hcore.2.1]
  exact hjoins

def Kept (before after : List CandidatePair) : Prop :=
  ∀ p ∈ before, checked p = true → before.count p ≤ after.count p

/-- Every checked pair has one of the same foundations in front of it when the
list is sorted: an earlier pair of no smaller priority, or a later or missing
one of a larger priority. -/
def Overtaken (a : Agent) : Prop :=
  ∀ before p behind, a.candidatePairs = before++p::behind → checked p = true →
    (∃ q ∈ before, foundations q = foundations p ∧ pairKey p ≤ pairKey q) ∨
    (∃ q ∈ behind, foundations q = foundations p ∧ pairKey p < pairKey q) ∨
    (∃ q, MissingFrom a q ∧ foundations q = foundations p ∧ pairKey p < pairKey q)

theorem missing_state {q : CandidatePair} (h : MissingFrom a q) : q.state = .frozen := by
  obtain ⟨_,_,_,_,_,_,_,_,rfl⟩ := h
  rfl

theorem kept_iff_not_leader : Kept a.candidatePairs (formCandidatePairs a).candidatePairs ↔
    ∀ p, checked p = true → ¬(Leader pairKey (sameFoundations p) a.candidatePairs p ∧
      ∀ q, MissingFrom a q → sameFoundations p q = true → pairKey q ≤ pairKey p) := by
  obtain ⟨added,hmem,hform,-⟩ := formed_eq a
  have hadded (p : CandidatePair) (hp : checked p = true) : p ∉ added :=
    fun h => (checked_state hp).2 (missing_state ((hmem p).mp h))
  have hleader (p : CandidatePair) (hp : checked p = true) :
      (sortDesc pairKey (a.candidatePairs++added)).find? (sameFoundations p) = some p ↔
        Leader pairKey (sameFoundations p) a.candidatePairs p ∧
          ∀ q, MissingFrom a q → sameFoundations p q = true → pairKey q ≤ pairKey p := by
    rw [find?_sortDesc, leader_append (hadded p hp)]
    simp only [hmem]
  have hcount (p : CandidatePair) (hp : checked p = true) :
      (formCandidatePairs a).candidatePairs.count p +
        (if foundations p ∉ [] ∧ (sortDesc pairKey (a.candidatePairs++added)).find?
          (sameFoundations p) = some p then 1 else 0) = a.candidatePairs.count p := by
    rw [hform, unfreezeFirst_count hp, (sortDesc_perm _ _).count_eq, List.count_append,
      List.count_eq_zero_of_not_mem (hadded p hp), Nat.add_zero]
  constructor
  · intro hkept p hp hlead
    obtain ⟨before,behind,hsplit,-⟩ := hlead.1
    have hle := hkept p (hsplit ▸ List.mem_append_right before List.mem_cons_self) hp
    have hlost := hcount p hp
    rw [if_pos ⟨List.not_mem_nil,(hleader p hp).mpr hlead⟩] at hlost
    omega
  · intro hno p _ hp
    have hsame := hcount p hp
    rw [if_neg (fun h => hno p hp ((hleader p hp).mp h.2))] at hsame
    omega

theorem overtaken_iff_not_leader : Overtaken a ↔
    ∀ p, checked p = true → ¬(Leader pairKey (sameFoundations p) a.candidatePairs p ∧
      ∀ q, MissingFrom a q → sameFoundations p q = true → pairKey q ≤ pairKey p) := by
  constructor
  · rintro h p hp ⟨⟨before,behind,hsplit,-,hbefore,hbehind⟩,hmissing⟩
    rcases h before p behind hsplit hp with ⟨q,hq,hf,hle⟩ | ⟨q,hq,hf,hlt⟩ | ⟨q,hq,hf,hlt⟩
    · exact absurd (hbefore q hq (beq_iff_eq.mpr hf)) (Nat.not_lt.mpr hle)
    · exact absurd (hbehind q hq (beq_iff_eq.mpr hf)) (Nat.not_le.mpr hlt)
    · exact absurd (hmissing q hq (beq_iff_eq.mpr hf)) (Nat.not_le.mpr hlt)
  · intro h before p behind hsplit hp
    by_contra hnone
    simp only [not_or, not_exists, not_and, Nat.not_le, Nat.not_lt] at hnone
    obtain ⟨hbefore,hbehind,hmissing⟩ := hnone
    exact h p hp ⟨⟨before,behind,hsplit,beq_self_eq_true _,
      fun q hq hf => hbefore q hq (beq_iff_eq.mp hf),
      fun q hq hf => hbehind q hq (beq_iff_eq.mp hf)⟩,
      fun q hq hf => hmissing q hq (beq_iff_eq.mp hf)⟩

end Forming

structure WellAdded (before after : Agent) : Prop where
  kept : Kept before.candidatePairs after.candidatePairs
  distinct : Distinct before.candidatePairs → Distinct after.candidatePairs
  descending : Descending pairKey after.candidatePairs
  complete : Complete after

/-- New candidates keep the list distinct, sorted and complete in any case.
The checked pairs are kept exactly if each has another pair of its
foundations in front of it. -/
theorem wellAdded_iff (a : Agent) (candidates : List Candidate) :
    WellAdded a (addRemoteCandidates candidates a) ↔ Overtaken (extendRemote candidates a) := by
  have hkept : Kept a.candidatePairs (addRemoteCandidates candidates a).candidatePairs ↔
      Overtaken (extendRemote candidates a) := by
    rw [overtaken_iff_not_leader, ← kept_iff_not_leader]
    rfl
  constructor
  · exact fun h => hkept.mp h.kept
  · intro h
    exact ⟨hkept.mpr h,fun hd => form_distinct (a := extendRemote candidates a) hd,
      form_descending _,form_complete _⟩

def hostCandidate (port : UInt16) (priority : UInt32) : Candidate where
  foundation := "f"
  component := 1
  transport := .udp
  priority := priority
  address := .v4 (StunMessage.zeroOctets 4) port
  candidateType := .host
  relatedAddress := none

def pairedAgent (state : PairState) : Agent where
  role := .controlling
  state := .checking
  localCandidates := [hostCandidate 1 10]
  remoteCandidates := [hostCandidate 2 10]
  candidatePairs := [{newPair .controlling (hostCandidate 1 10) (hostCandidate 2 10) with
    state := state}]
  selectedPair := none
  sockets := [(hostCandidate 1 10).address]
  remoteUfrag := some "u"
  remotePwd := some "p"

/-- A call with no candidates at all sends a pair that has failed back to
waiting. -/
theorem failed_pair_reset :
    (addRemoteCandidates [] (pairedAgent .failed)).candidatePairs.map CandidatePair.state =
      [.waiting] ∧
    ¬WellAdded (pairedAgent .failed) (addRemoteCandidates [] (pairedAgent .failed)) := by
  refine ⟨by decide +kernel,fun h => ?_⟩
  exact absurd (h.kept _ List.mem_cons_self (by decide +kernel)) (by decide +kernel)

end RsipRtp.IcePairs
