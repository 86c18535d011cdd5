import RsipRtp.StableSort
import RsipRtp.StunBinding

/-!
# The ICE agent's check list

Candidates, candidate pairs and the sections of the agent that run under its
locks: forming pairs, marking and settling a pair, unfreezing, and the
selection that does without checks.
-/

namespace RsipRtp.IceAgent
open SipText StunMessage StunBinding StableSort

inductive CandidateType
  | host
  | serverReflexive
  | peerReflexive
  | relay
deriving DecidableEq

inductive Transport
  | udp
  | tcp
deriving DecidableEq

structure Candidate where
  foundation : Text
  component : UInt8
  transport : Transport
  priority : UInt32
  address : SocketAddr
  candidateType : CandidateType
  relatedAddress : Option SocketAddr
deriving DecidableEq

inductive PairState
  | waiting
  | inProgress
  | succeeded
  | failed
  | frozen
deriving DecidableEq

structure CandidatePair where
  localCand : Candidate
  remoteCand : Candidate
  priority : UInt64
  state : PairState
  nominated : Bool
deriving DecidableEq

inductive IceState
  | new
  | gathering
  | checking
  | connected
  | completed
  | failed
  | closed
deriving DecidableEq

/-- `IceError::NoCandidates`, the one error of this part. -/
inductive IceError
  | noCandidates
deriving DecidableEq

structure Agent where
  role : IceRole
  state : IceState
  localCandidates : List Candidate
  remoteCandidates : List Candidate
  candidatePairs : List CandidatePair
  selectedPair : Option CandidatePair
  /-- The addresses that the agent has a socket for. -/
  sockets : List SocketAddr
  remoteUfrag : Option Text
  remotePwd : Option Text

def calculatePairPriority (controlling : Bool) (g d : UInt32) : UInt64 :=
  let (g,d) := if controlling then (g,d) else (d,g)
  ((1 : UInt64) <<< 32)*(min g d).toUInt64+2*(max g d).toUInt64+(if d < g then 1 else 0)

def compatible (l r : Candidate) : Bool := l.component == r.component && l.transport == r.transport

def joins (p : CandidatePair) (l r : Candidate) : Bool :=
  p.localCand.address == l.address && p.remoteCand.address == r.address

def newPair (role : IceRole) (l r : Candidate) : CandidatePair where
  localCand := l
  remoteCand := r
  priority := calculatePairPriority (role == .controlling) l.priority r.priority
  state := .frozen
  nominated := false

def addPair (role : IceRole) (pairs : List CandidatePair) (l r : Candidate) :
    List CandidatePair :=
  if compatible l r && !pairs.any (fun p => joins p l r) then pairs++[newPair role l r]
  else pairs

def addPairs (role : IceRole) (localCands remoteCands : List Candidate)
    (pairs : List CandidatePair) : List CandidatePair :=
  localCands.foldl (fun pairs l => remoteCands.foldl (fun pairs r => addPair role pairs l r) pairs)
    pairs

def pairKey (p : CandidatePair) : ℕ := p.priority.toNat

def foundations (p : CandidatePair) : Text × Text :=
  (p.localCand.foundation,p.remoteCand.foundation)

/-- The first pair of each foundation is set to waiting, whatever its state. -/
def unfreezeFirst (seen : List (Text × Text)) : List CandidatePair → List CandidatePair
  | [] => []
  | p::pairs =>
    if foundations p ∈ seen then p::unfreezeFirst seen pairs
    else {p with state := .waiting}::unfreezeFirst (foundations p::seen) pairs

def formCandidatePairs (a : Agent) : Agent :=
  let pairs := addPairs a.role a.localCandidates a.remoteCandidates a.candidatePairs
  {a with candidatePairs := unfreezeFirst [] (sortDesc pairKey pairs)}

def extendRemote (candidates : List Candidate) (a : Agent) : Agent :=
  {a with remoteCandidates := a.remoteCandidates++candidates}

def addRemoteCandidates (candidates : List Candidate) (a : Agent) : Agent :=
  formCandidatePairs (extendRemote candidates a)

def remoteCredentials (a : Agent) : Option (Text × Text) := do
  let ufrag ← a.remoteUfrag
  let pwd ← a.remotePwd
  some (ufrag,pwd)

def beginChecks (a : Agent) : Agent := {a with state := .checking}

def pairsToCheck (a : Agent) : List (ℕ × CandidatePair) :=
  (a.candidatePairs.zipIdx.filter (fun e => e.1.state == .waiting)).map (fun e => (e.2,e.1))

/-- A change of the pair at a position. `none` is the panic of `expect`. -/
def updatePair (idx : ℕ) (f : CandidatePair → CandidatePair) (a : Agent) :
    Option (CandidatePair × Agent) := do
  let pair ← a.candidatePairs[idx]?
  some (f pair,{a with candidatePairs := a.candidatePairs.set idx (f pair)})

def markInProgress (idx : ℕ) (a : Agent) : Option Agent :=
  (updatePair idx (fun p => {p with state := .inProgress}) a).map Prod.snd

/-- A candidate that is not a host's is checked over the socket of its base. -/
def hasSocket (pair : CandidatePair) (a : Agent) : Bool :=
  decide (pair.localCand.relatedAddress.getD pair.localCand.address ∈ a.sockets)

/-- The pair at the position is settled, and selected if the check succeeded.
The entry as it is afterwards is returned. -/
def settle (idx : ℕ) (checkResult : Bool) (a : Agent) : Option (CandidatePair × Agent) :=
  if checkResult then do
    let (entry,a) ← updatePair idx
      (fun p => {p with state := .succeeded, nominated := p.nominated || a.role == .controlling}) a
    some (entry,{a with selectedPair := some entry, state := .connected})
  else updatePair idx (fun p => {p with state := .failed}) a

def unfreezeRelatedPairs (succeededIdx : ℕ) (succeeded : CandidatePair) (a : Agent) : Agent :=
  {a with candidatePairs := a.candidatePairs.mapIdx (fun i p =>
    if i ≠ succeededIdx ∧ p.state = .frozen ∧
        p.localCand.foundation = succeeded.localCand.foundation then {p with state := .waiting}
    else p)}

def fallbackPair (pairs : List CandidatePair) : Option CandidatePair :=
  (pairs.find? (fun p => p.localCand.candidateType == .host &&
    p.remoteCand.candidateType == .host)).or pairs.head?

def fallbackSelection (a : Agent) : Agent × Except IceError Unit :=
  match fallbackPair a.candidatePairs with
  | some pair => ({a with selectedPair := some pair, state := .connected},.ok ())
  | none => ({a with state := .failed},.error .noCandidates)

structure Check where
  pair : CandidatePair
  result : Bool

/-- The loop through the pairs to check. `outcome` is what the check of the
pair at a position yields; without a socket there is no check. The checks
that were carried out are kept in order. -/
def checkPairs (outcome : ℕ → Bool) :
    List (ℕ × CandidatePair) → Agent → Option (Agent × List Check × Except IceError Unit)
  | [], a => some ((fallbackSelection a).1,[],(fallbackSelection a).2)
  | (idx,pair)::todo, a => do
    let a ← markInProgress idx a
    let socket := hasSocket pair a
    let checkResult := socket && outcome idx
    let performed := if socket then [⟨pair,checkResult⟩] else []
    let (_,a) ← settle idx checkResult a
    if checkResult then some (unfreezeRelatedPairs idx pair a,performed,.ok ())
    else
      let (a,later,result) ← checkPairs outcome todo a
      some (a,performed++later,result)

def startChecks (outcome : ℕ → Bool) (a : Agent) :
    Option (Agent × List Check × Except IceError Unit) :=
  let a := beginChecks a
  match remoteCredentials a with
  | none => some ((fallbackSelection a).1,[],(fallbackSelection a).2)
  | some _ => checkPairs outcome (pairsToCheck a) a

section Sections

variable {a b : Agent} {idx : ℕ} {pair entry : CandidatePair}

def core (p : CandidatePair) : Candidate × Candidate × UInt64 :=
  (p.localCand,p.remoteCand,p.priority)

def Listed (a : Agent) (c : ℕ × CandidatePair) : Prop :=
  (a.candidatePairs.map core)[c.1]? = some (core c.2)

structure SamePlaces (a b : Agent) : Prop where
  cores : b.candidatePairs.map core = a.candidatePairs.map core
  sockets : b.sockets = a.sockets

theorem SamePlaces.trans {c : Agent} (h : SamePlaces a b) (h' : SamePlaces b c) :
    SamePlaces a c := ⟨h'.cores.trans h.cores,h'.sockets.trans h.sockets⟩

theorem SamePlaces.listed {c : ℕ × CandidatePair} (h : SamePlaces a b) (hc : Listed a c) :
    Listed b c := by
  rw [Listed, h.cores]
  exact hc

theorem SamePlaces.hasSocket (h : SamePlaces a b) : hasSocket pair b = hasSocket pair a := by
  rw [IceAgent.hasSocket, IceAgent.hasSocket, h.sockets]

theorem mem_pairsToCheck {c : ℕ × CandidatePair} : c ∈ pairsToCheck a ↔
    a.candidatePairs[c.1]? = some c.2 ∧ c.2.state = .waiting := by
  simp only [pairsToCheck, List.mem_map, List.mem_filter, beq_iff_eq, Prod.exists]
  constructor
  · rintro ⟨p,i,⟨hmem,hstate⟩,rfl⟩
    exact ⟨List.mem_zipIdx_iff_getElem?.mp hmem,hstate⟩
  · rintro ⟨hget,hstate⟩
    exact ⟨c.2,c.1,⟨List.mem_zipIdx_iff_getElem?.mpr hget,hstate⟩,rfl⟩

theorem listed_of_getElem? (h : a.candidatePairs[idx]? = some pair) : Listed a (idx,pair) := by
  rw [Listed, List.getElem?_map, h]
  rfl

structure Changed (a b : Agent) (entry : CandidatePair) : Prop where
  places : SamePlaces a b
  pairs : ∀ p ∈ b.candidatePairs, p ∈ a.candidatePairs ∨ p = entry

theorem updatePair_listed {f : CandidatePair → CandidatePair} (hf : ∀ p, core (f p) = core p)
    (h : Listed a (idx,pair)) :
    ∃ old b, updatePair idx f a = some (f old,b) ∧ core (f old) = core pair ∧
      Changed a b (f old) := by
  rw [Listed, List.getElem?_map, Option.map_eq_some_iff] at h
  obtain ⟨old,hget,hcore⟩ := h
  refine ⟨old,{a with candidatePairs := a.candidatePairs.set idx (f old)},
    by rw [updatePair, hget]; rfl,(hf old).trans hcore,⟨?_,rfl⟩,
    fun p hp => List.mem_or_eq_of_mem_set hp⟩
  obtain ⟨hlt,hold⟩ := List.getElem?_eq_some_iff.mp hget
  have hmap : idx < (a.candidatePairs.map core).length := by rwa [List.length_map]
  have hsame : core (f old) = (a.candidatePairs.map core)[idx] := by
    rw [hf, List.getElem_map, hold]
  rw [List.map_set, hsame, List.set_getElem_self]

theorem markInProgress_listed (h : Listed a (idx,pair)) : ∃ entry b,
    markInProgress idx a = some b ∧ entry.state = .inProgress ∧ Changed a b entry := by
  obtain ⟨old,b,hupdate,-,hchanged⟩ :=
    updatePair_listed (f := fun p => {p with state := .inProgress}) (fun _ => rfl) h
  exact ⟨_,b,by rw [markInProgress, hupdate]; rfl,rfl,hchanged⟩

theorem settle_listed (result : Bool) (h : Listed a (idx,pair)) : ∃ entry b,
    settle idx result a = some (entry,b) ∧ core entry = core pair ∧ Changed a b entry ∧
      (result = true → b.selectedPair = some entry ∧ b.state = .connected) := by
  cases result with
  | true =>
    obtain ⟨old,b,hupdate,hcore,hchanged⟩ := updatePair_listed (f := fun p =>
      {p with state := .succeeded, nominated := p.nominated || a.role == .controlling})
      (fun _ => rfl) h
    rw [settle, if_pos rfl, hupdate]
    exact ⟨_,_,rfl,hcore,⟨⟨hchanged.places.cores,hchanged.places.sockets⟩,hchanged.pairs⟩,
      fun _ => ⟨rfl,rfl⟩⟩
  | false =>
    obtain ⟨old,b,hupdate,hcore,hchanged⟩ :=
      updatePair_listed (f := fun p => {p with state := .failed}) (fun _ => rfl) h
    exact ⟨_,b,hupdate,hcore,hchanged,fun hfalse => absurd hfalse Bool.false_ne_true⟩

theorem unfreezeRelatedPairs_places (idx : ℕ) (pair : CandidatePair) (a : Agent) :
    SamePlaces a (unfreezeRelatedPairs idx pair a) := by
  refine ⟨?_,rfl⟩
  apply List.ext_getElem?
  intro i
  simp only [unfreezeRelatedPairs, List.getElem?_map, List.getElem?_mapIdx, Option.map_map]
  congr 1
  funext p
  simp only [Function.comp_apply]
  split_ifs <;> rfl

end Sections

end RsipRtp.IceAgent
