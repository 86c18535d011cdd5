import RsipRtp.InviteServerStep
import RsipRtp.ManagerMoves

/-!
# What a PRACK acknowledges

The manager looks for the INVITE server transaction of a PRACK by Call-ID and
From tag, in the order of a hash map, and takes the named RSeq out of the
buffer of the first.
-/

namespace RsipRtp.ManagerPrack
open SipText SipHeader SipMessage OutputMachine FiniteMap Manager InviteServerStep
open InviteServer (InviteServerTransaction ReliableProvisional matchesInviteDialog)

section Routing
variable (m : TransactionManager) (order : List Handle) (prack : SipRequest)
variable {h : Handle}

def prackTarget : Option (Handle × RAck) := do
  let rack ← prack.rack
  let callId ← ok prack.callId
  let fromTag ← ok prack.fromTag
  let h ← findInviteServer m order callId fromTag
  return (h,rack)

def Named (tx : InviteServerTransaction) : Prop :=
  ∃ rack callId fromTag, prack.rack = some rack ∧ ok prack.callId = some callId ∧
    ok prack.fromTag = some fromTag ∧ matchesInviteDialog tx callId fromTag = true ∧
    ok tx.request.cseq = some rack.cseq

/-- Only a named transaction's buffer is changed, and a provisional that is
named there is taken out. -/
def Acknowledges (m m' : TransactionManager) : Prop :=
  (∀ h tx tx', m.inviteServers.lookup h = some tx → m'.inviteServers.lookup h = some tx' →
    tx'.reliableProvisionals ≠ tx.reliableProvisionals → Named prack tx) ∧
  ∀ h tx rack, m.inviteServers.lookup h = some tx → Named prack tx → prack.rack = some rack →
    rack.rseq ∈ buffered tx → ∃ tx', m'.inviteServers.lookup h = some tx' ∧
      rack.rseq ∉ buffered tx'

def buffer (m : TransactionManager) (h : Handle) : Option (List ReliableProvisional) :=
  (m.inviteServers.lookup h).map (·.reliableProvisionals)

variable {m order prack}

theorem routePrack_target (h : prackTarget m order prack = none) :
    routePrack m order prack = (m,[]) := by
  unfold routePrack
  split
  · rename_i hrack hcall hfrom
    split
    · rename_i hfind
      simp [prackTarget, hrack, hcall, hfrom, hfind] at h
    · rfl
  · rfl

theorem prackTarget_iff {rack : RAck} :
    prackTarget m order prack = some (h,rack) ↔ prack.rack = some rack ∧
      ∃ callId fromTag, ok prack.callId = some callId ∧ ok prack.fromTag = some fromTag ∧
        findInviteServer m order callId fromTag = some h := by
  simp only [prackTarget, Option.bind_eq_bind, Option.bind_eq_some_iff, Option.pure_def,
    Option.some.injEq, Prod.mk.injEq]
  constructor
  · rintro ⟨_, hrack, callId, hcall, fromTag, hfrom, _, hfind, rfl, rfl⟩
    exact ⟨hrack, callId, fromTag, hcall, hfrom, hfind⟩
  · rintro ⟨hrack, callId, fromTag, hcall, hfrom, hfind⟩
    exact ⟨rack, hrack, callId, hcall, fromTag, hfrom, h, hfind, rfl, rfl⟩

theorem routePrack_found {rack : RAck}
    (htarget : prackTarget m order prack = some (h,rack)) : routePrack m order prack =
      onInviteServer m h (InviteServer.handleEvent · (.prackReceived rack.rseq)) := by
  obtain ⟨hrack, _, _, hcall, hfrom, hfind⟩ := prackTarget_iff.mp htarget
  simp only [routePrack, hrack, hcall, hfrom, hfind]

theorem buffer_onInviteServer (h h' : Handle)
    (f : InviteServerTransaction → InviteServerTransaction × List InviteServer.Action)
    (hf : ∀ tx, (f tx).1.reliableProvisionals = tx.reliableProvisionals) :
    buffer (onInviteServer m h f).1 h' = buffer m h' := by
  rw [buffer, onInviteServer, lookup_modifyAt, buffer]
  split_ifs with heq
  · rw [heq]
    cases m.inviteServers.lookup h with
    | none => rfl
    | some tx => exact congrArg some (hf tx)
  · rfl

theorem buffer_matchRequest (hm : prack.method = .prack) (h : Handle) :
    buffer (matchRequest m prack).1 h = buffer m h := by
  unfold matchRequest
  split
  · split
    · exact buffer_onInviteServer _ h _ fun tx => (handleRequest_quiet tx prack).buffer
    · rfl
    · rfl
  · rw [createServerTransaction]
    simp only [hm, reduceCtorEq, if_false]
    split <;> rfl

theorem buffer_prack (hm : prack.method = .prack) (order : List Handle) (h : Handle) :
    buffer (handleMessage m order (.request prack)).1 h =
      match prackTarget m order prack with
      | some (target,rack) => if h = target then
          (buffer m h).map (List.filter (·.rseq != rack.rseq)) else buffer m h
      | none => buffer m h := by
  rw [handleMessage, handleRequest, if_pos hm]
  dsimp only
  rw [buffer_matchRequest hm]
  cases htarget : prackTarget m order prack with
  | none => rw [routePrack_target htarget]
  | some t =>
    rw [routePrack_found htarget, buffer, onInviteServer, lookup_modifyAt]
    dsimp only
    split_ifs with heq
    · rw [heq, buffer]
      cases m.inviteServers.lookup t.1 with
      | none => rfl
      | some tx =>
        exact congrArg some (congrArg _ (handlePrackReceived_spec tx t.2.rseq).next)
    · rfl

theorem buffer_eq {entries : List ReliableProvisional} :
    buffer m h = some entries ↔
      ∃ tx, m.inviteServers.lookup h = some tx ∧ tx.reliableProvisionals = entries :=
  Option.map_eq_some_iff

/-- The buffer of a transaction before and after a PRACK. -/
theorem prack_cases (order : List Handle) (hm : prack.method = .prack)
    {tx : InviteServerTransaction} (hl : m.inviteServers.lookup h = some tx) :
    ∃ tx', (handleMessage m order (.request prack)).1.inviteServers.lookup h = some tx' ∧
      ((∃ rack, prackTarget m order prack = some (h,rack) ∧
          tx'.reliableProvisionals = tx.reliableProvisionals.filter (·.rseq != rack.rseq)) ∨
        (∀ rack, prackTarget m order prack ≠ some (h,rack)) ∧
          tx'.reliableProvisionals = tx.reliableProvisionals) := by
  have hbuffer : buffer m h = some tx.reliableProvisionals := buffer_eq.mpr ⟨tx,hl,rfl⟩
  have hafter := buffer_prack (m := m) hm order h
  rw [hbuffer] at hafter
  cases htarget : prackTarget m order prack with
  | none =>
    rw [htarget] at hafter
    obtain ⟨tx',hl',hsame⟩ := buffer_eq.mp hafter
    exact ⟨tx',hl',.inr ⟨by simp,hsame⟩⟩
  | some t =>
    simp only [htarget] at hafter
    split_ifs at hafter with heq
    · obtain ⟨tx',hl',hfilter⟩ := buffer_eq.mp hafter
      exact ⟨tx',hl',.inl ⟨t.2,by rw [heq],hfilter⟩⟩
    · obtain ⟨tx',hl',hsame⟩ := buffer_eq.mp hafter
      refine ⟨tx',hl',.inr ⟨fun rack hrack => ?_,hsame⟩⟩
      cases hrack
      exact heq rfl

theorem mem_buffered_filter {tx tx' : InviteServerTransaction} {r : ℕ}
    (h : tx'.reliableProvisionals = tx.reliableProvisionals.filter (·.rseq != r)) :
    r ∉ buffered tx' := by
  rw [buffered, h]
  simp

/-- Whatever the buffers hold, a PRACK acknowledges what it names exactly if
the first transaction found is the named one wherever an RSeq is at stake. -/
theorem acknowledges_iff (hm : prack.method = .prack) :
    Acknowledges prack m (handleMessage m order (.request prack)).1 ↔
      ∀ h tx rack, m.inviteServers.lookup h = some tx → prack.rack = some rack →
        rack.rseq ∈ buffered tx →
          (prackTarget m order prack = some (h,rack) ↔ Named prack tx) := by
  constructor
  · rintro ⟨hframe,heffect⟩ h tx rack hl hrack hmem
    obtain ⟨tx',hl',⟨r,htarget,hfilter⟩ | ⟨hother,hsame⟩⟩ := prack_cases order hm hl
    · obtain rfl : r = rack := Option.some.inj ((prackTarget_iff.mp htarget).1.symm.trans hrack)
      refine ⟨fun _ => hframe h tx tx' hl hl' fun hsame => ?_,fun _ => htarget⟩
      have hgone : r.rseq ∉ buffered tx' := mem_buffered_filter hfilter
      rw [buffered, hsame] at hgone
      exact hgone hmem
    · refine ⟨fun htarget => absurd htarget (hother rack),fun hnamed => ?_⟩
      obtain ⟨tx'',hl'',hgone⟩ := heffect h tx rack hl hnamed hrack hmem
      obtain rfl : tx' = tx'' := Option.some.inj (hl'.symm.trans hl'')
      rw [buffered, hsame] at hgone
      exact absurd hmem hgone
  · intro hroute
    constructor
    · intro h tx tx' hl hl' hchanged
      obtain ⟨tx'',hl'',⟨rack,htarget,hfilter⟩ | ⟨_,hsame⟩⟩ := prack_cases order hm hl
      · obtain rfl : tx' = tx'' := Option.some.inj (hl'.symm.trans hl'')
        refine (hroute h tx rack hl (prackTarget_iff.mp htarget).1 ?_).mp htarget
        by_contra hmem
        exact hchanged (hfilter.trans (filter_rseq_of_notMem hmem))
      · obtain rfl : tx' = tx'' := Option.some.inj (hl'.symm.trans hl'')
        exact absurd hsame hchanged
    · intro h tx rack hl hnamed hrack hmem
      have htarget := (hroute h tx rack hl hrack hmem).mpr hnamed
      obtain ⟨tx',hl',⟨r,hr,hfilter⟩ | ⟨hother,_⟩⟩ := prack_cases order hm hl
      · obtain rfl : r = rack := by
          rw [hr] at htarget
          cases htarget
          rfl
        exact ⟨tx',hl',mem_buffered_filter hfilter⟩
      · exact absurd htarget (hother rack)

end Routing

/-- What lets a PRACK find its transaction in every order of the map: the one
that holds the RSeq has the CSeq number of the RAck and is the only one of the
dialog that is stored. -/
def Unambiguous (prack : SipRequest) (m : TransactionManager) : Prop :=
  ∀ rack callId fromTag, prack.rack = some rack → ok prack.callId = some callId →
    ok prack.fromTag = some fromTag → ∀ h tx, m.inviteServers.lookup h = some tx →
      matchesInviteDialog tx callId fromTag = true → rack.rseq ∈ buffered tx →
        ok tx.request.cseq = some rack.cseq ∧
          ∀ h' tx', m.inviteServers.lookup h' = some tx' →
            matchesInviteDialog tx' callId fromTag = true → h' = h

section Orders
variable {m : TransactionManager} {order : List Handle} {prack : SipRequest}

theorem findInviteServer_stored {callId fromTag : Text} {h : Handle}
    (hf : findInviteServer m order callId fromTag = some h) :
    ∃ tx, m.inviteServers.lookup h = some tx ∧ matchesInviteDialog tx callId fromTag = true := by
  have hany := List.find?_some (p := fun h => (m.inviteServers.lookup h).any
    (matchesInviteDialog · callId fromTag)) hf
  exact (Option.any_eq_true _ _).mp hany

/-- Any stored transaction of the dialog comes first in some order. -/
theorem findInviteServer_first {callId fromTag : Text} {h : Handle} {tx : InviteServerTransaction}
    (hl : m.inviteServers.lookup h = some tx)
    (hd : matchesInviteDialog tx callId fromTag = true) :
    findInviteServer m [h] callId fromTag = some h := by
  simp [findInviteServer, hl, hd]

theorem acknowledges_every_order (hm : prack.method = .prack) :
    (∀ order, Acknowledges prack m (handleMessage m order (.request prack)).1) ↔
      Unambiguous prack m := by
  simp only [acknowledges_iff hm]
  constructor
  · intro hroute rack callId fromTag hrack hcall hfrom h tx hl hd hmem
    have htarget {h'} {tx'} (hl' : m.inviteServers.lookup h' = some tx')
        (hd' : matchesInviteDialog tx' callId fromTag = true) :
        prackTarget m [h'] prack = some (h',rack) :=
      prackTarget_iff.mpr ⟨hrack,callId,fromTag,hcall,hfrom,findInviteServer_first hl' hd'⟩
    have hnamed := (hroute [h] h tx rack hl hrack hmem).mp (htarget hl hd)
    refine ⟨?_,fun h' tx' hl' hd' => ?_⟩
    · obtain ⟨rack',_,_,hrack',_,_,_,hseq⟩ := hnamed
      obtain rfl : rack' = rack := Option.some.inj (hrack'.symm.trans hrack)
      exact hseq
    · -- the other one is first in its own order, where the named one must be found
      have hfirst := (hroute [h'] h tx rack hl hrack hmem).mpr hnamed
      rw [htarget hl' hd'] at hfirst
      cases hfirst
      rfl
  · intro hone order h tx rack hl hrack hmem
    constructor
    · intro htarget
      obtain ⟨_,callId,fromTag,hcall,hfrom,hfind⟩ := prackTarget_iff.mp htarget
      obtain ⟨tx',hl',hd⟩ := findInviteServer_stored hfind
      obtain rfl : tx' = tx := Option.some.inj (hl'.symm.trans hl)
      exact ⟨rack, callId, fromTag, hrack, hcall, hfrom, hd,
        (hone rack callId fromTag hrack hcall hfrom h tx' hl hd hmem).1⟩
    · rintro ⟨rack',callId,fromTag,hrack',hcall,hfrom,hd,_⟩
      obtain ⟨_,honly⟩ := hone rack callId fromTag hrack hcall hfrom h tx hl hd hmem
      refine prackTarget_iff.mpr ⟨hrack,callId,fromTag,hcall,hfrom,?_⟩
      have hsome : (findInviteServer m order callId fromTag).isSome := by
        rw [findInviteServer, List.find?_isSome]
        exact ⟨h,List.mem_append_right _
          (AList.mem_keys.mp (AList.lookup_isSome.mp (by simp [hl]))),by rw [hl]; exact hd⟩
      obtain ⟨h',hfind⟩ := Option.isSome_iff_exists.mp hsome
      obtain ⟨tx',hl',hd'⟩ := findInviteServer_stored hfind
      rw [hfind, honly h' tx' hl' hd']

end Orders

/-! ## Runs with reliable provisionals -/

/-- A call of the manager, or one for a reliable provisional on an INVITE
server transaction that it holds. -/
inductive Input where
  | call (c : Call)
  | sendProvisionalReliable (handle : Handle) (response : SipResponse)

/-- The transaction's own call, with its actions collected as the manager
collects them. A handle that no INVITE server transaction has changes nothing. -/
def sendProvisionalReliable (m : TransactionManager) (handle : Handle) (response : SipResponse) :
    Option (TransactionManager × List ManagerAction) :=
  match m.inviteServers.lookup handle with
  | some tx => (InviteServer.sendProvisionalReliable tx response).map (fun p =>
    ({ m with inviteServers := m.inviteServers.insert handle p.1 },
      collectInviteServerActions handle p.2))
  | none => some (m,[])

def step : Step TransactionManager Input ManagerAction
  | m, .call c => Manager.step m c
  | m, .sendProvisionalReliable handle response => sendProvisionalReliable m handle response

/-- A condition on the state in which a PRACK arrives. -/
def OnPrack (P : SipRequest → TransactionManager → Prop) (m : TransactionManager) : Input → Prop
  | .call (.handleMessage _ (.request r)) => r.method = .prack → P r m
  | _ => True

def Acknowledged (prack : SipRequest) (m : TransactionManager) : Prop :=
  ∀ order, Acknowledges prack m (handleMessage m order (.request prack)).1

/-- In every run, the PRACKs acknowledge what they name in all orders of the map
exactly if each of them finds its transaction unambiguous. -/
theorem pracks_acknowledge_iff (reliable : Bool) (inputs : List Input) :
    Guarded step (OnPrack Acknowledged) (new reliable) inputs ↔
      Guarded step (OnPrack Unambiguous) (new reliable) inputs := by
  refine guarded_congr (P := fun _ => True) (fun _ _ _ _ _ _ _ => trivial) (fun m i _ => ?_)
    trivial inputs
  unfold OnPrack
  split
  · exact forall_congr' acknowledges_every_order
  · exact Iff.rfl

def callRequest (method : Method) (branch cseq : Text) (rack : Option Text) : SipRequest where
  inner :=
    { method, uri := "sip:bob@example.com", version := "SIP/2.0"
      headers := ⟨[.via ("SIP/2.0/UDP 192.168.1.1:5060;branch="++branch),
        .from "<sip:alice@example.com>;tag=fromtag",.to "<sip:bob@example.com>;tag=totag",
        .callId "test@example.com",.cseq (cseq++ ' '::method.asStr)]++
          (rack.map (Header.other "RAck")).toList,by cases rack <;> simp [maxHeaders]⟩
      body := [] }
  uri_parses := (createRequest method branch).uri_parses

-- the provisional of the only INVITE of a dialog, before and after its PRACK
example : [2,3].map (fun n => ((run step (new false) (List.take n
    [.call (.handleMessage [] (.request (callRequest .invite "z9hG4bKa" "1" none))),
      .sendProvisionalReliable 1 (createResponse .invite "z9hG4bKa" 183),
      .call (.handleMessage [] (.request
        (callRequest .prack "z9hG4bKc" "2" (some "1 1 INVITE"))))])).bind
          (·.1.inviteServers.lookup 1)).map buffered) = [some [1],some []] := by
  decide +kernel

/-- An INVITE is answered, its transaction is not cleaned up, and a re-INVITE
gets a reliable provisional. -/
def reinviteInputs : List Input :=
  [.call (.handleMessage [] (.request (callRequest .invite "z9hG4bKa" "1" none))),
    .call (.sendResponse 1 (createResponse .invite "z9hG4bKa" 200)),
    .call (.handleMessage [] (.request (callRequest .invite "z9hG4bKb" "2" none))),
    .sendProvisionalReliable 2 (createResponse .invite "z9hG4bKb" 183)]

theorem reinvite_prack_misrouted : ¬Guarded step (OnPrack Acknowledged) (new false)
    (reinviteInputs++[.call (.handleMessage [] (.request
      (callRequest .prack "z9hG4bKc" "3" (some "1 2 INVITE"))))]) := by
  intro hg
  have hstored : (run step (new false) reinviteInputs).any (fun p =>
      (p.1.inviteServers.lookup 1).any (matchesInviteDialog · "test@example.com" "fromtag") &&
      (p.1.inviteServers.lookup 2).any (fun tx =>
        matchesInviteDialog tx "test@example.com" "fromtag" && buffered tx == [1])) = true := by
    decide +kernel
  simp only [Option.any_eq_true, Bool.and_eq_true, beq_iff_eq] at hstored
  obtain ⟨⟨m,log⟩,hr,⟨tx,hl,hd⟩,tx',hl',hd',hbuffered⟩ := hstored
  have hone := (acknowledges_every_order rfl).mp (((guarded_append.mp hg).2 m log hr).1 rfl)
  obtain ⟨_,honly⟩ := hone ⟨1,2,.invite⟩ "test@example.com" "fromtag" (by decide +kernel)
    (by decide +kernel) (by decide +kernel) 2 tx' hl' hd' (by simp [hbuffered])
  exact absurd (honly 1 tx hl hd) (by decide)

end RsipRtp.ManagerPrack
