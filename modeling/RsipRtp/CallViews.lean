import RsipRtp.CallTable

/-!
# What an operation does to the calls

Most of a call does not matter to what the manager keeps in order: its state
and direction, the dialog it belongs to, its port and the answer that is still
pending are all.
-/

namespace RsipRtp.CallViews
open SipText SipMessage OutputMachine FiniteMap Sdp SdpNegotiation CallSession CallTable CallManager
open DeferredAnswer (PendingAnswer IceAnswerInputs patchOffer sessionCodecBuilds)
open Dialog (DialogId)

variable {m m' : CallManager}

structure View where
  state : CallState
  direction : CallDirection
  dialogId : Option DialogId
  port : Option UInt16
  pending : Option PendingAnswer

def callView (c : Call) : View where
  state := c.state
  direction := c.direction
  dialogId := c.dialogId
  port := c.media.map MediaSession.localPort
  pending := c.pendingAnswer

def view (m : CallManager) (id : CallId) : Option View := (m.calls.lookup id).map callView

section Calls
variable (c : Call)

@[simp] theorem callView_setState (s : CallState) :
    callView (c.setState s).1 = { callView c with state := s } := by
  rw [Call.setState_fst]
  rfl

@[simp] theorem callView_handleProvisional (hasSdp : Bool) :
    callView (c.handleProvisional hasSdp).1 =
      { callView c with state := if hasSdp then .earlyMedia else .ringing } := by
  cases hasSdp <;> exact callView_setState c _

@[simp] theorem callView_handleAnswer :
    callView c.handleAnswer.1 = { callView c with state := .established } := callView_setState c _

@[simp] theorem callView_handleEnded (reason : CallEndReason) :
    callView (c.handleEnded reason).1 = { callView c with state := .terminated } := by
  unfold Call.handleEnded callView
  simp only [Call.setState_fst, Option.map_map]
  rfl

@[simp] theorem callView_setDialog (d : Dialog) :
    callView (c.setDialog d) = { callView c with dialogId := some d.id } := rfl

theorem callView_mapDialog {f : Dialog → Dialog} (hf : ∀ d, (f d).id = d.id) :
    callView (c.mapDialog f) = callView c := by
  have hid : (c.mapDialog f).dialogId = c.dialogId := by
    unfold Call.dialogId Call.mapDialog
    cases c.dialog with
    | none => rfl
    | some d => exact congrArg some (hf d)
  rw [callView, hid]
  rfl

@[simp] theorem callView_slideDeadlines (now : ℕ) :
    callView (c.slideDeadlines now) = callView c := by
  unfold Call.slideDeadlines
  split <;> rfl

@[simp] theorem callView_setTimer (se : ℕ) (r : Refresher) (we : Bool) (now : ℕ) :
    callView (c.setTimer se r we now) = callView c := rfl

@[simp] theorem callView_slideRefresh (now : ℕ) : callView (slideRefresh c now) = callView c := by
  unfold slideRefresh
  split <;> rfl

@[simp] theorem callView_adoptInterval (request : SipRequest) :
    callView (adoptInterval c request) = callView c := by
  unfold adoptInterval
  split <;> rfl

@[simp] theorem callView_applyInvite2xxSessionTimer (response : SipResponse) (now : ℕ) :
    callView (applyInvite2xxSessionTimer c response now) = callView c := by
  unfold applyInvite2xxSessionTimer
  split <;> rfl

@[simp] theorem callView_timerFromAnswer (now : ℕ) (response : Option SipResponse) :
    callView (timerFromAnswer c now response) = callView c := by
  cases response with
  | none => rfl
  | some r => exact callView_applyInvite2xxSessionTimer c r now

theorem callView_setNegotiatedMedia {env : Env} {media : NegotiatedMedia} {p : UInt16} {c' : Call}
    (h : c.setNegotiatedMedia env media p = some c') :
    callView c' = { callView c with port := some p } := by
  obtain ⟨session,hsession,rfl⟩ := Option.map_eq_some_iff.mp h
  rw [MediaSession.forNegotiated] at hsession
  split_ifs at hsession
  cases hsession
  unfold callView
  dsimp only
  cases media.remoteAddr.bind env.std.parseIp <;> rfl

theorem setNegotiatedMedia_isSome (env : Env) (media : NegotiatedMedia) (p : UInt16) :
    (c.setNegotiatedMedia env media p).isSome =
      sessionCodecBuilds env.std env.opusBuilds media.codec := by
  rw [Call.setNegotiatedMedia, MediaSession.forNegotiated]
  cases sessionCodecBuilds env.std env.opusBuilds media.codec <;> rfl

end Calls

section Managers
variable (m : CallManager)

theorem view_setCall (id k : CallId) (c : Call) :
    view (m.setCall id c) k = if k = id then some (callView c) else view m k := by
  rw [view, setCall, lookup_insert_eq]
  split_ifs
  · rfl
  · rfl

theorem view_addCall (k : CallId) (c : Call) :
    view (m.addCall c) k = if k = m.nextId then some (callView c) else view m k :=
  view_setCall m m.nextId k c

theorem view_updateCall {f : Call → Call} (hf : ∀ c, callView (f c) = callView c)
    (id k : CallId) : view (m.updateCall id f) k = view m k := by
  unfold updateCall
  cases hc : m.calls.lookup id with
  | none => rfl
  | some c =>
    dsimp only
    rw [view_setCall, hf]
    split_ifs with hk
    · rw [hk, view, hc]
      rfl
    · rfl

theorem dialogToCall_updateCall (f : Call → Call) (id : CallId) :
    (m.updateCall id f).dialogToCall = m.dialogToCall := by
  unfold updateCall
  split <;> rfl

theorem nextId_updateCall (f : Call → Call) (id : CallId) :
    (m.updateCall id f).nextId = m.nextId := by
  unfold updateCall
  split <;> rfl

theorem view_some {id : CallId} {v : View} :
    view m id = some v ↔ ∃ c, m.calls.lookup id = some c ∧ callView c = v := Option.map_eq_some_iff

end Managers

def isEnd (id : CallId) : Output → Bool
  | .call k (.ended _) => k == id
  | _ => false

def isEndNews (id : CallId) : Output → Bool
  | .manager (.callEvent k (.ended _)) => k == id
  | _ => false

def ends (id : CallId) (out : List Output) : ℕ := out.countP (isEnd id)
def endNews (id : CallId) (out : List Output) : ℕ := out.countP (isEndNews id)

def Silent (out : List Output) : Prop := ∀ id, ends id out = 0 ∧ endNews id out = 0

theorem silent_nil : Silent [] := fun _ => ⟨rfl,rfl⟩

theorem silent_outbound (r : OutboundRequest) : Silent [.outbound r] := fun _ => ⟨rfl,rfl⟩

theorem ends_append (id : CallId) (out out' : List Output) :
    ends id (out++out') = ends id out+ends id out' := List.countP_append

theorem endNews_append (id : CallId) (out out' : List Output) :
    endNews id (out++out') = endNews id out+endNews id out' := List.countP_append

theorem Silent.append {out out' : List Output} (h : Silent out) (h' : Silent out') :
    Silent (out++out') := fun id => by
  rw [ends_append, endNews_append]
  exact ⟨by rw [(h id).1, (h' id).1],by rw [(h id).2, (h' id).2]⟩

theorem silent_setState (c : Call) (s : CallState) (id : CallId) :
    Silent ((c.setState s).2.map (.call id)) := by
  unfold Call.setState
  split_ifs <;> exact fun _ => ⟨rfl,rfl⟩

theorem silent_stateChanged (id : CallId) (s : CallState) :
    Silent [.manager (.callStateChanged id s)] := fun _ => ⟨rfl,rfl⟩

theorem silent_handleAnswer (c : Call) (id : CallId) :
    Silent (c.handleAnswer.2.map (.call id)) := by
  rw [Call.handleAnswer, List.map_append]
  exact (silent_setState c _ id).append fun _ => ⟨rfl,rfl⟩

theorem silent_handleProvisional (c : Call) (hasSdp : Bool) (id : CallId) :
    Silent ((c.handleProvisional hasSdp).2.map (.call id)) := by
  unfold Call.handleProvisional
  dsimp only
  split_ifs
  · rw [List.map_append]
    exact (silent_setState c _ id).append fun _ => ⟨rfl,rfl⟩
  · rw [List.map_append]
    exact (silent_setState c _ id).append fun _ => ⟨rfl,rfl⟩

structure OneEnd (id : CallId) (out : List Output) : Prop where
  call : ∀ k, ends k out = if k = id then 1 else 0
  manager : ∀ k, endNews k out ≤ if k = id then 1 else 0

theorem ends_handleEnded (c : Call) (reason : CallEndReason) (id k : CallId) :
    ends k ((c.handleEnded reason).2.map (.call id)) = (if k = id then 1 else 0) ∧
      endNews k ((c.handleEnded reason).2.map (.call id)) = 0 := by
  have hquiet := silent_setState c .terminated id k
  have hcall : (c.handleEnded reason).2.map (Output.call id) =
      (c.setState .terminated).2.map (.call id)++[.call id (.ended reason)] := List.map_append
  rw [hcall, ends_append, endNews_append, hquiet.1, hquiet.2]
  by_cases hk : k = id
  · subst hk
    simp [ends, endNews, isEnd, isEndNews]
  · simp [ends, endNews, isEnd, isEndNews, hk, Ne.symm hk]

theorem oneEnd_quiet (c : Call) (reason : CallEndReason) (id : CallId) :
    OneEnd id ((c.handleEnded reason).2.map (.call id)) where
  call k := (ends_handleEnded c reason id k).1
  manager k := by
    rw [(ends_handleEnded c reason id k).2]
    exact Nat.zero_le _

theorem oneEnd_reported (c : Call) (reason : CallEndReason) (id : CallId) :
    OneEnd id ((c.handleEnded reason).2.map (.call id)++
      [.manager (.callEvent id (.ended reason))]) where
  call k := by
    rw [ends_append, (ends_handleEnded c reason id k).1]
    rfl
  manager k := by
    rw [endNews_append, (ends_handleEnded c reason id k).2]
    by_cases hk : k = id
    · subst hk
      simp [endNews, isEndNews]
    · simp [endNews, isEndNews, hk, Ne.symm hk]

def brings (env : Env) (hasSdp : Bool) (sdp : Option SessionDescription) : Bool :=
  ((if hasSdp then sdp else none).bind (fun answer => (processAnswer answer).head?)).any
    (fun media => sessionCodecBuilds env.std env.opusBuilds media.codec)

theorem brings_isSome {env : Env} {answer : SessionDescription}
    (h : brings env true (some answer) = true) : (processAnswer answer).head?.isSome := by
  obtain ⟨media,hmedia,-⟩ := (Option.any_eq_true _ _).mp h
  have hhead : (processAnswer answer).head? = some media := hmedia
  rw [hhead]
  rfl

def provisional : Op → Option (CallId × Bool × Option SessionDescription)
  | .handleProvisional id hasSdp sdp => some (id,hasSdp,sdp)
  | .handleProvisionalResponse id _ sdp _ => some (id,sdp.isSome,sdp)
  | _ => none

/-- An offer that an inbound call comes of, with its answer at once or later. -/
def offered (env : Env) (m : CallManager) (offer : SessionDescription) : Bool :=
  (createAnswer env.std m.config.callConfig.codecs offer m.nextRtpPort).any (fun r =>
    r.2.head?.any (fun media => sessionCodecBuilds env.std env.opusBuilds media.codec))

def acceptable (env : Env) (m : CallManager) (offer : SessionDescription) :
    Option NegotiatedMedia :=
  (createAnswer env.std m.config.callConfig.codecs offer 0).bind (fun r => r.2.getLast?)

/-- The operation finds the call that it is to change, or makes one. Only
operations that change a view or a dialog are asked. -/
def Acts (env : Env) (m : CallManager) : Op → Prop
  | .handleIncomingInvite _ offer => offered env m offer = true
  | .acceptInboundInvite _ offer => (acceptable env m offer).isSome
  | .handleProvisional id _ _ | .handleProvisionalResponse id _ _ _ |
    .handleInviteFailure id _ => (view m id).isSome
  | .handleInviteSuccess id _ answer _ _ =>
    (view m id).isSome ∧ (processAnswer answer).head?.isSome
  | .handleBye d => ∃ id ∈ m.dialogToCall.lookup d, (view m id).isSome
  | .answerCall id => ∃ v ∈ view m id, v.direction = .inbound ∧ v.state = .ringing
  | .buildAnswerFor id _ => ∃ v ∈ view m id, v.pending.isSome
  | _ => False

def Changed (m m' : CallManager) (id : CallId) (v : View) : Prop :=
  ∀ k, view m' k = if k = id then some v else view m k

def EveryCall (Q : View → Prop) (m : CallManager) : Prop := ∀ id v, view m id = some v → Q v

theorem everyCall_new (Q : View → Prop) (config : ManagerConfig) : EveryCall Q (.new config) :=
  fun _ _ h => nomatch h

theorem EveryCall.same {Q : View → Prop} (h : EveryCall Q m)
    (hviews : ∀ k, view m' k = view m k) : EveryCall Q m' := fun k v hv => h k v (hviews k ▸ hv)

theorem EveryCall.changed_iff {Q : View → Prop} {id : CallId} {w : View}
    (h : EveryCall Q m) (hviews : Changed m m' id w) : EveryCall Q m' ↔ Q w := by
  constructor
  · exact fun h' => h' id w ((hviews id).trans (if_pos rfl))
  · intro hw k v hv
    rw [hviews k] at hv
    split_ifs at hv
    · exact Option.some.inj hv ▸ hw
    · exact h k v hv

theorem forall_view {R : View → Prop} {m : CallManager} {id : CallId} {v : View}
    (hv : view m id = some v) : (∀ w ∈ view m id, R w) ↔ R v := by
  simp only [Option.mem_def, hv, Option.some.injEq, forall_eq']

/-- The operations that take a port from the counter, also if no call gets it. -/
def allocates : Op → Bool
  | .handleIncomingInvite _ _ | .handleProvisional _ _ _ | .handleProvisionalResponse _ _ _ _ =>
    true
  | .handleInviteSuccess _ _ answer _ _ => (processAnswer answer).head?.isSome
  | _ => false

def counter (m : CallManager) : ManagerConfig × UInt16 := (m.config,m.nextRtpPort)

def Counted (m : CallManager) (op : Op) (m' : CallManager) : Prop :=
  counter m' = bif allocates op then counter m.allocateRtpPort.1 else counter m

theorem counter_updateCall (m : CallManager) (f : Call → Call) (id : CallId) :
    counter (m.updateCall id f) = counter m := by
  unfold updateCall
  split <;> rfl

structure Rest (m m' : CallManager) : Prop where
  map : m'.dialogToCall = m.dialogToCall
  next : m'.nextId = m.nextId

theorem Rest.refl (m : CallManager) : Rest m m := ⟨rfl,rfl⟩

inductive Effect (env : Env) (m : CallManager) : Op → CallManager → List Output → Prop
  | quiet {op : Op} {m' : CallManager} {out : List Output} (hviews : ∀ k, view m' k = view m k)
      (hmap : m'.dialogToCall = m.dialogToCall) (hnext : m.nextId ≤ m'.nextId)
      (hout : Silent out) (hidle : ¬Acts env m op) (hcount : Counted m op m') :
      Effect env m op m' out
  | created {uri : Text} {m' : CallManager}
      (hviews : Changed m m' m.nextId (callView (.newOutbound uri)))
      (hmap : m'.dialogToCall = m.dialogToCall) (hnext : m'.nextId = m.nextId+1)
      (hcount : Counted m (.createCall uri) m') : Effect env m (.createCall uri) m' []
  | invited {op : Op} {m' : CallManager} {out : List Output} (dialog : Dialog)
      (port : Option UInt16) (pending : Option PendingAnswer)
      (hop : (∃ offer, op = .handleIncomingInvite dialog offer ∧ offered env m offer = true ∧
          port = some m.nextRtpPort ∧ pending = none) ∨
        ∃ offer media, op = .acceptInboundInvite dialog offer ∧
          acceptable env m offer = some media ∧ port = none ∧ pending = some ⟨offer,media⟩)
      (hviews : Changed m m' m.nextId ⟨.ringing,.inbound,some dialog.id,port,pending⟩)
      (hmap : m'.dialogToCall = m.dialogToCall.insert dialog.id m.nextId)
      (hnext : m'.nextId = m.nextId+1) (hout : Silent out) (hcount : Counted m op m') :
      Effect env m op m' out
  | progressed {op : Op} {m' : CallManager} {out : List Output} {id : CallId} {hasSdp : Bool}
      {sdp : Option SessionDescription} {v : View}
      (hop : provisional op = some (id,hasSdp,sdp)) (hv : view m id = some v)
      (hviews : Changed m m' id { v with
        state := if hasSdp then .earlyMedia else .ringing
        port := if brings env hasSdp sdp then some m.nextRtpPort else v.port })
      (hrest : Rest m m') (hout : Silent out) (hcount : Counted m op m') : Effect env m op m' out
  | answered {m' : CallManager} {out : List Output} {id : CallId} {dialog : Dialog}
      {answer : SessionDescription} {response : Option SipResponse} {now : ℕ} {v : View}
      (hv : view m id = some v) (htaken : brings env true (some answer) = true)
      (hviews : Changed m m' id { v with
        state := .established, dialogId := some dialog.id, port := some m.nextRtpPort })
      (hmap : m'.dialogToCall = m.dialogToCall.insert dialog.id id) (hnext : m'.nextId = m.nextId)
      (hout : Silent out)
      (hcount : Counted m (.handleInviteSuccess id dialog answer response now) m') :
      Effect env m (.handleInviteSuccess id dialog answer response now) m' out
  | stalled {m' : CallManager} {out : List Output} {id : CallId} {dialog : Dialog}
      {answer : SessionDescription} {response : Option SipResponse} {now : ℕ} {v : View}
      (hv : view m id = some v) (hanswer : (processAnswer answer).head?.isSome)
      (htaken : brings env true (some answer) = false)
      (hviews : Changed m m' id { v with dialogId := some dialog.id })
      (hrest : Rest m m') (hout : Silent out)
      (hcount : Counted m (.handleInviteSuccess id dialog answer response now) m') :
      Effect env m (.handleInviteSuccess id dialog answer response now) m' out
  | ended {op : Op} {m' : CallManager} {out : List Output} {id : CallId} {v : View}
      (pending : Option PendingAnswer)
      (hop : (∃ code, op = .handleInviteFailure id code) ∨
        (∃ d, op = .handleBye d ∧ m.dialogToCall.lookup d = some id) ∨
        (op = .rejectInboundInvite id ∨ op = .rejectCall id) ∧ v.state = .ringing)
      (hv : view m id = some v)
      (hviews : Changed m m' id { v with state := .terminated, pending })
      (hpending : pending = none ∨ pending = v.pending)
      (hrest : Rest m m') (hout : OneEnd id out) (hcount : Counted m op m') :
      Effect env m op m' out
  | picked {m' : CallManager} {out : List Output} {id : CallId} {v : View}
      (hv : view m id = some v) (hdir : v.direction = .inbound) (hstate : v.state = .ringing)
      (hviews : Changed m m' id { v with state := .established })
      (hrest : Rest m m') (hout : Silent out) (hcount : Counted m (.answerCall id) m') :
      Effect env m (.answerCall id) m' out
  | closed {m' : CallManager} {out : List Output} {id : CallId} {v : View}
      (hv : view m id = some v) (hstate : v.state = .established)
      (hviews : Changed m m' id { v with state := .terminating })
      (hrest : Rest m m') (hout : Silent out) (hcount : Counted m (.terminateCall id) m') :
      Effect env m (.terminateCall id) m' out
  | built {m' : CallManager} {out : List Output} {id : CallId} {inputs : IceAnswerInputs} {v : View}
      {pending : PendingAnswer} (hv : view m id = some v) (hpending : v.pending = some pending)
      (hpatch : (patchOffer env.std pending inputs).isSome)
      (hbuilds : sessionCodecBuilds env.std env.opusBuilds pending.negotiated.codec = true)
      (hviews : Changed m m' id { v with pending := none, port := some inputs.port })
      (hrest : Rest m m') (hout : Silent out) (hcount : Counted m (.buildAnswerFor id inputs) m') :
      Effect env m (.buildAnswerFor id inputs) m' out
  | dropped {m' : CallManager} {out : List Output} {id : CallId} {inputs : IceAnswerInputs}
      {v : View} {pending : PendingAnswer} (hv : view m id = some v)
      (hpending : v.pending = some pending)
      (hfail : patchOffer env.std pending inputs = none ∨
        sessionCodecBuilds env.std env.opusBuilds pending.negotiated.codec = false)
      (hviews : Changed m m' id { v with pending := none })
      (hrest : Rest m m') (hout : Silent out) (hcount : Counted m (.buildAnswerFor id inputs) m') :
      Effect env m (.buildAnswerFor id inputs) m' out
  | removed {m' : CallManager} {id : CallId} {v : View} (hv : view m id = some v)
      (hviews : ∀ k, view m' k = if k = id then none else view m k)
      (hmap : ∀ d, m'.dialogToCall.lookup d =
        if v.dialogId = some d then none else m.dialogToCall.lookup d)
      (hnext : m'.nextId = m.nextId) (hcount : Counted m (.removeCall id) m') :
      Effect env m (.removeCall id) m' []
  | ticked {m' : CallManager} {out : List Output} {now : ℕ} {draws : CallId → Draws}
      (hviews : ∀ k, view m' k = view m k ∨ ∃ v, view m k = some v ∧ v.state = .established ∧
        view m' k = some { v with state := .terminating })
      (hrest : Rest m m') (hout : Silent out) (hcount : Counted m (.tick now draws) m') :
      Effect env m (.tick now draws) m' out

theorem Effect.counted {env : Env} {op : Op} {out : List Output}
    (h : Effect env m op m' out) : Counted m op m' := by cases h <;> assumption

section Operations
variable {env : Env} {m : CallManager}
variable {id : CallId} {op : Op}
variable {c : Call} {dialog : Dialog}

theorem counted_still {m' : CallManager} (hstays : allocates op = false)
    (h : counter m' = counter m) : Counted m op m' := by
  rw [Counted, hstays]
  exact h

theorem counted_taken {m' : CallManager} (htakes : allocates op = true)
    (h : counter m' = counter m.allocateRtpPort.1) : Counted m op m' := by
  rw [Counted, htakes]
  exact h

theorem effect_still (hidle : ¬Acts env m op) (hstays : allocates op = false) :
    Effect env m op m [] :=
  .quiet (fun _ => rfl) rfl (Nat.le_refl _) silent_nil hidle (counted_still hstays rfl)

theorem effect_allocated (hidle : ¬Acts env m op) (htakes : allocates op = true) :
    Effect env m op m.allocateRtpPort.1 [] :=
  .quiet (fun _ => rfl) rfl (Nat.le_refl _) silent_nil hidle (counted_taken htakes rfl)

theorem effect_updateCall {f : Call → Call} (hf : ∀ c, callView (f c) = callView c)
    (id : CallId) (hidle : ¬Acts env m op) (hstays : allocates op = false) :
    Effect env m op (m.updateCall id f) [] :=
  .quiet (view_updateCall m hf id) (dialogToCall_updateCall m f id)
    (Nat.le_of_eq (nextId_updateCall m f id).symm) silent_nil hidle
    (counted_still hstays (counter_updateCall m f id))

theorem effect_setCall {c c' : Call} {out : List Output}
    (hc : m.calls.lookup id = some c) (hview : callView c' = callView c) (hout : Silent out)
    (hidle : ¬Acts env m op) (hstays : allocates op = false) :
    Effect env m op (m.setCall id c') out := by
  refine .quiet (fun k => ?_) rfl (Nat.le_refl _) hout hidle (counted_still hstays rfl)
  rw [view_setCall, hview]
  split_ifs with hk
  · rw [hk, view, hc]
    rfl
  · rfl

theorem view_of_lookup (hc : m.calls.lookup id = some c) :
    view m id = some (callView c) := by
  rw [view, hc]
  rfl

theorem view_missing (hc : m.calls.lookup id = none) : ¬(view m id).isSome := by
  rw [view, hc]
  exact Bool.false_ne_true

theorem changed_setCall (c : Call) {v : View} (hv : callView c = v) :
    Changed m (m.setCall id c) id v := fun k => hv ▸ view_setCall m id k c

theorem registerInbound_effect {port : Option UInt16}
    {pending : Option PendingAnswer}
    (hview : callView c = ⟨.ringing,.inbound,some dialog.id,port,pending⟩)
    (hop : (∃ offer, op = .handleIncomingInvite dialog offer ∧ offered env m offer = true ∧
        port = some m.nextRtpPort ∧ pending = none) ∨
      ∃ offer media, op = .acceptInboundInvite dialog offer ∧
        acceptable env m offer = some media ∧ port = none ∧ pending = some ⟨offer,media⟩)
    {port' : UInt16} (hcount : Counted m op { m with nextRtpPort := port' }) :
    Effect env m op (registerInbound { m with nextRtpPort := port' } dialog c).1
      (registerInbound { m with nextRtpPort := port' } dialog c).2 :=
  .invited dialog port pending hop (fun k => hview ▸ view_addCall m k c) rfl rfl
    (fun _ => ⟨rfl,rfl⟩) hcount

theorem handleIncomingInvite_effect {offer : SessionDescription}
    {r : CallManager × List Output × Option (CallId × SessionDescription × UInt16)}
    (h : m.handleIncomingInvite env dialog offer = some r) :
    Effect env m (.handleIncomingInvite dialog offer) r.1 r.2.1 := by
  have hoffered {answer : SessionDescription} {negotiated : List NegotiatedMedia}
      {media : NegotiatedMedia}
      (hanswer : createAnswer env.std m.config.callConfig.codecs offer m.nextRtpPort =
        some (answer,negotiated)) (hmedia : negotiated.head? = some media) :
      offered env m offer = sessionCodecBuilds env.std env.opusBuilds media.codec := by
    rw [offered, hanswer, Option.any_some, hmedia, Option.any_some]
  unfold handleIncomingInvite at h
  dsimp only at h
  split at h
  · rename_i hanswer
    cases h
    refine effect_allocated (fun hacts => ?_) rfl
    rw [Acts, offered, show createAnswer env.std m.config.callConfig.codecs offer m.nextRtpPort =
      none from hanswer] at hacts
    cases hacts
  · rename_i answer negotiated hanswer
    obtain ⟨media,hmedia,rfl⟩ := Option.map_eq_some_iff.mp h
    unfold createInboundCallInternal
    have hbuilds := setNegotiatedMedia_isSome (Call.newInbound dialog.remoteUri dialog) env
      media m.allocateRtpPort.2
    rw [← hoffered hanswer hmedia] at hbuilds
    cases hc : (Call.newInbound dialog.remoteUri dialog).setNegotiatedMedia env media
        m.allocateRtpPort.2 with
    | none =>
      rw [hc] at hbuilds
      refine .quiet (fun _ => rfl) rfl (Nat.le_succ _) silent_nil (fun hacts => ?_) rfl
      rw [Acts, ← hbuilds] at hacts
      cases hacts
    | some c =>
      rw [hc] at hbuilds
      exact registerInbound_effect (callView_setNegotiatedMedia _ hc)
        (.inl ⟨offer,rfl,hbuilds.symm,rfl,rfl⟩) rfl

/-- An offer that a call comes of does not stop the manager. -/
theorem offered_step {offer : SessionDescription}
    (h : offered env m offer = true) : step env m (.handleIncomingInvite dialog offer) ≠ none := by
  obtain ⟨⟨answer,negotiated⟩,hanswer,hany⟩ := (Option.any_eq_true _ _).mp h
  obtain ⟨media,hmedia,-⟩ := (Option.any_eq_true _ _).mp hany
  have hanswer' : createAnswer env.std m.allocateRtpPort.1.config.callConfig.codecs offer
      m.allocateRtpPort.2 = some (answer,negotiated) := hanswer
  have hmedia' : negotiated.head? = some media := hmedia
  simp [step, handleIncomingInvite, hanswer', hmedia']

theorem acceptInboundInvite_effect (dialog : Dialog) (offer : SessionDescription) :
    Effect env m (.acceptInboundInvite dialog offer) (m.acceptInboundInvite env dialog offer).1
      (m.acceptInboundInvite env dialog offer).2.1 := by
  unfold acceptInboundInvite
  split
  · rename_i hnone
    refine effect_still (fun hacts => ?_) rfl
    rw [Acts, acceptable, hnone] at hacts
    cases hacts
  · rename_i media hmedia
    exact registerInbound_effect (m := m) rfl (.inr ⟨offer,media,rfl,hmedia,rfl,rfl⟩) rfl

theorem rejectInboundInvite_effect (id : CallId) :
    Effect env m (.rejectInboundInvite id) (m.rejectInboundInvite id).1
      (m.rejectInboundInvite id).2.1 := by
  unfold rejectInboundInvite
  cases hc : m.calls.lookup id with
  | none => exact effect_still (fun h => h) rfl
  | some c =>
    dsimp only
    split_ifs with hguard
    · exact effect_still (fun h => h) rfl
    · rw [not_or, not_not] at hguard
      exact .ended none (.inr (.inr ⟨.inl rfl,hguard.1⟩)) (view_of_lookup hc)
        (changed_setCall _ (callView_handleEnded _ _)) (.inl rfl) ⟨rfl,rfl⟩
          (oneEnd_reported _ _ _) rfl

theorem buildAnswerFor_effect (id : CallId) (inputs : IceAnswerInputs) :
    Effect env m (.buildAnswerFor id inputs) (m.buildAnswerFor env id inputs).1
      (m.buildAnswerFor env id inputs).2.1 := by
  unfold buildAnswerFor
  cases hc : m.calls.lookup id with
  | none => exact effect_still (fun ⟨v,hv,_⟩ => view_missing hc (Option.isSome_of_mem hv)) rfl
  | some c =>
    dsimp only
    cases hpending : c.pendingAnswer with
    | none =>
      refine effect_still (fun ⟨v,hv,hsome⟩ => ?_) rfl
      rw [← Option.some.inj ((view_of_lookup hc).symm.trans hv)] at hsome
      exact absurd hpending (Option.isSome_iff_ne_none.mp hsome)
    | some pending =>
      have hbuilds := setNegotiatedMedia_isSome { c with pendingAnswer := none } env
        pending.negotiated inputs.port
      dsimp only
      cases hpatch : patchOffer env.std pending inputs with
      | none =>
        exact .dropped (view_of_lookup hc) hpending (.inl hpatch) (changed_setCall _ rfl)
          ⟨rfl,rfl⟩ silent_nil rfl
      | some answer =>
        dsimp only
        cases hset : { c with pendingAnswer := none }.setNegotiatedMedia env pending.negotiated
            inputs.port with
        | none =>
          rw [hset] at hbuilds
          exact .dropped (view_of_lookup hc) hpending (.inr hbuilds.symm) (changed_setCall _ rfl)
            ⟨rfl,rfl⟩ silent_nil rfl
        | some c' =>
          rw [hset] at hbuilds
          exact .built (view_of_lookup hc) hpending (by rw [hpatch]; rfl) hbuilds.symm
            (changed_setCall _ (callView_setNegotiatedMedia _ hset)) ⟨rfl,rfl⟩ silent_nil rfl

theorem routeFromAnswer_id (dialog : Dialog) (response : Option SipResponse) :
    (routeFromAnswer dialog response).id = dialog.id := by
  cases response with
  | none => rfl
  | some r => exact Dialog.route_id dialog _ _ _

theorem handleInviteSuccess_effect (id : CallId) (dialog : Dialog) (answer : SessionDescription)
    (response : Option SipResponse) (now : ℕ) :
    Effect env m (.handleInviteSuccess id dialog answer response now)
      (m.handleInviteSuccess env id dialog answer response now).1
      (m.handleInviteSuccess env id dialog answer response now).2.1 := by
  unfold handleInviteSuccess
  cases hanswer : (processAnswer answer).head? with
  | none =>
    refine effect_still (fun hacts => ?_) (by rw [allocates, hanswer]; rfl)
    have := hacts.2
    rw [hanswer] at this
    cases this
  | some media =>
    have hbrings : brings env true (some answer) =
        sessionCodecBuilds env.std env.opusBuilds media.codec := by
      simp [brings, hanswer]
    have htakes : allocates (.handleInviteSuccess id dialog answer response now) = true := by
      rw [allocates, hanswer]
      rfl
    dsimp only
    cases hc : m.allocateRtpPort.1.calls.lookup id with
    | none => exact effect_allocated (fun hacts => view_missing hc hacts.1) htakes
    | some c =>
      dsimp only
      cases hset : (c.setDialog (routeFromAnswer dialog response)).setNegotiatedMedia env media
          m.allocateRtpPort.2 with
      | none =>
        have hbuilds := setNegotiatedMedia_isSome (c.setDialog (routeFromAnswer dialog response))
          env media m.allocateRtpPort.2
        rw [hset, ← hbrings] at hbuilds
        refine .stalled (view_of_lookup hc) (by rw [hanswer]; rfl) hbuilds.symm
          (changed_setCall (m := m) _ ?_) ⟨rfl,rfl⟩ silent_nil (counted_taken htakes rfl)
        rw [callView_setDialog, routeFromAnswer_id]
      | some c' =>
        have hbuilds := setNegotiatedMedia_isSome (c.setDialog (routeFromAnswer dialog response))
          env media m.allocateRtpPort.2
        rw [hset, ← hbrings] at hbuilds
        have hview := callView_setNegotiatedMedia _ hset
        rw [callView_setDialog, routeFromAnswer_id] at hview
        have htimer : callView (timerFromAnswer c'.handleAnswer.1 now response) = { callView c with
            state := .established, dialogId := some dialog.id, port := some m.nextRtpPort } := by
          rw [callView_timerFromAnswer, callView_handleAnswer, hview]
          rfl
        refine .answered (view_of_lookup hc) hbuilds.symm (changed_setCall (m := m) _ htimer) ?_ rfl
          ((silent_handleAnswer _ _).append (silent_stateChanged _ _)) (counted_taken htakes rfl)
        rw [← routeFromAnswer_id dialog response]
        rfl

theorem earlyMedia_view (c : Call) (hasSdp : Bool) (sdp : Option SessionDescription) (p : UInt16) :
    callView ((earlyMedia env c hasSdp sdp p).getD c) = { callView c with
      port := if brings env hasSdp sdp then some p else (callView c).port } := by
  unfold earlyMedia brings
  cases (if hasSdp then sdp else none) with
  | none => rfl
  | some answer =>
    rcases Option.eq_none_or_eq_some (processAnswer answer).head? with hnone | ⟨media,hmedia⟩
    · simp [hnone]
    · have hbuilds := setNegotiatedMedia_isSome c env media p
      rcases Option.eq_none_or_eq_some (c.setNegotiatedMedia env media p) with hset | ⟨c',hset⟩
      · rw [hset] at hbuilds
        simp [hmedia, hset, ← hbuilds]
      · rw [hset] at hbuilds
        simp [hmedia, hset, ← hbuilds, callView_setNegotiatedMedia c hset]

theorem handleProvisional_effect {hasSdp : Bool}
    {sdp : Option SessionDescription} (hop : provisional op = some (id,hasSdp,sdp))
    {m₁ : CallManager} (hviews : ∀ k, view m₁ k = view m k) (hrest : Rest m m₁)
    (hcounter : counter m₁ = counter m) :
    Effect env m op (m₁.handleProvisional env id hasSdp sdp).1
      (m₁.handleProvisional env id hasSdp sdp).2 := by
  obtain ⟨hconfig,hport⟩ := Prod.mk.inj hcounter
  have hcount : Counted m op m₁.allocateRtpPort.1 := by
    refine counted_taken ?_ (by simp only [counter, allocateRtpPort, hconfig, hport])
    cases op <;> first | rfl | cases hop
  unfold handleProvisional
  dsimp only
  cases hc : m₁.allocateRtpPort.1.calls.lookup id with
  | none =>
    refine .quiet hviews hrest.map (Nat.le_of_eq hrest.next.symm) silent_nil
      (fun hacts => ?_) hcount
    have hmissing := view_missing (m := m₁) hc
    rw [hviews id] at hmissing
    cases op with
    | handleProvisional | handleProvisionalResponse =>
      cases hop
      exact hmissing hacts
    | _ => cases hop
  | some c =>
    have hv : view m id = some (callView c) := (hviews id).symm.trans (view_of_lookup hc)
    refine .progressed hop hv (fun k => ?_) ⟨hrest.map,hrest.next⟩
      ((silent_handleProvisional _ _ _).append (silent_stateChanged _ _)) hcount
    have hlocal : m₁.allocateRtpPort.2 = m.nextRtpPort := hport
    rw [view_setCall, callView_handleProvisional, earlyMedia_view, hlocal]
    exact ite_congr rfl (fun _ => rfl) fun _ => hviews k

theorem handleProvisionalResponse_effect (id : CallId) (response : SipResponse)
    (sdp : Option SessionDescription) (contact : Text) :
    Effect env m (.handleProvisionalResponse id response sdp contact)
      (m.handleProvisionalResponse env id response sdp contact).1
      (m.handleProvisionalResponse env id response sdp contact).2 := by
  unfold handleProvisionalResponse
  dsimp only
  split_ifs
  · exact handleProvisional_effect rfl (view_updateCall m (fun c => callView_mapDialog c
      fun d => d.populateUacFromResponse_id response contact) id)
      ⟨dialogToCall_updateCall m _ id,nextId_updateCall m _ id⟩ (counter_updateCall m _ id)
  · exact handleProvisional_effect rfl (fun _ => rfl) (Rest.refl m) rfl

theorem endCall_effect (reason : CallEndReason)
    (hop : (∃ code, op = .handleInviteFailure id code) ∨
      ∃ d, op = .handleBye d ∧ m.dialogToCall.lookup d = some id)
    (hc : m.calls.lookup id = some c) :
    Effect env m op (m.endCall id c reason).1 (m.endCall id c reason).2 :=
  .ended (callView c).pending (hop.imp_right .inl) (view_of_lookup hc)
    (changed_setCall _ (callView_handleEnded _ _)) (.inr rfl) ⟨rfl,rfl⟩ (oneEnd_reported _ _ _)
    (by rcases hop with ⟨code,rfl⟩ | ⟨d,rfl,-⟩ <;> rfl)

theorem handleInviteFailure_effect (id : CallId) (code : ℕ) :
    Effect env m (.handleInviteFailure id code) (m.handleInviteFailure id code).1
      (m.handleInviteFailure id code).2 := by
  unfold handleInviteFailure
  cases hc : m.calls.lookup id with
  | none => exact effect_still (view_missing hc) rfl
  | some c => exact endCall_effect _ (.inl ⟨code,rfl⟩) hc

theorem callByDialog_some {d : DialogId}
    (h : m.callByDialog d = some (id,c)) :
    m.dialogToCall.lookup d = some id ∧ m.calls.lookup id = some c := by
  obtain ⟨id',hid,h⟩ := Option.bind_eq_some_iff.mp h
  obtain ⟨c',hc,h⟩ := Option.bind_eq_some_iff.mp h
  cases h
  exact ⟨hid,hc⟩

theorem handleBye_effect (d : DialogId) :
    Effect env m (.handleBye d) (m.handleBye d).1 (m.handleBye d).2 := by
  unfold handleBye
  cases h : m.callByDialog d with
  | none =>
    refine effect_still (fun ⟨id,hid,hv⟩ => ?_) rfl
    obtain ⟨v,hv⟩ := Option.isSome_iff_exists.mp hv
    obtain ⟨c,hc,-⟩ := (view_some m).mp hv
    rw [callByDialog, hid] at h
    simp [hc] at h
  | some p =>
    obtain ⟨hid,hc⟩ := callByDialog_some h
    exact endCall_effect _ (.inr ⟨d,rfl,hid⟩) hc

theorem callView_nextCseq {d : Dialog} (h : c.dialog = some d) :
    callView (c.setDialog d.nextCseq) = callView c := by
  rw [callView_setDialog, Dialog.nextCseq_id, callView, Call.dialogId, h]
  rfl

theorem handleProvisionalReliable_effect {response : SipResponse} {uuid : Text}
    {r : CallManager × List Output × Option Request}
    (h : m.handleProvisionalReliable id response uuid = some r) :
    Effect env m (.handleProvisionalReliable id response uuid) r.1 r.2.1 := by
  unfold handleProvisionalReliable at h
  split at h
  · rename_i c hrseq hc
    split at h
    · cases h
      exact effect_still (fun h => h) rfl
    · rename_i d hd
      obtain ⟨inviteDialog,-,h⟩ := Option.bind_eq_some_iff.mp h
      obtain ⟨prack,-,h⟩ := Option.bind_eq_some_iff.mp h
      cases h
      exact effect_setCall hc (callView_nextCseq hd) (silent_outbound _) (fun h => h) rfl
  · cases h
    exact effect_still (fun h => h) rfl

theorem handleInboundUpdate_effect {d : DialogId} {request : SipRequest} {now : ℕ}
    {r : CallManager × List Output × Option SipResponse}
    (h : m.handleInboundUpdate d request now = some r) :
    Effect env m (.handleInboundUpdate d request now) r.1 r.2.1 := by
  unfold handleInboundUpdate at h
  cases hd : m.callByDialog d with
  | none =>
    rw [hd] at h
    cases h
    exact effect_still (fun h => h) rfl
  | some p =>
    have hc := (callByDialog_some hd).2
    rw [hd] at h
    dsimp only at h
    split at h
    · cases h
      exact effect_still (fun h => h) rfl
    · have hview : callView ((adoptInterval p.2 request).slideDeadlines now) = callView p.2 := by
        rw [callView_slideDeadlines, callView_adoptInterval]
      split at h
      · cases h
        exact effect_setCall hc hview silent_nil (fun h => h) rfl
      · obtain ⟨inviteDialog,-,h⟩ := Option.bind_eq_some_iff.mp h
        obtain ⟨response,-,h⟩ := Option.bind_eq_some_iff.mp h
        cases h
        exact effect_setCall hc hview silent_nil (fun h => h) rfl

theorem slideDeadlinesForDialog_effect (d : DialogId) (now : ℕ) :
    Effect env m (.slideDeadlinesForDialog d now) (m.slideDeadlinesForDialog d now) [] := by
  unfold slideDeadlinesForDialog
  split
  · exact effect_updateCall (fun c => callView_slideDeadlines c now) _ (fun h => h) rfl
  · exact effect_still (fun h => h) rfl

theorem markInDialog2xx_effect (id : CallId) (method : SipHeader.Method) (now : ℕ) :
    Effect env m (.markInDialog2xx id method now) (m.markInDialog2xx id method now) [] := by
  unfold markInDialog2xx
  split_ifs
  · exact effect_updateCall (fun c => callView_slideDeadlines c now) _ (fun h => h) rfl
  · exact effect_still (fun h => h) rfl

theorem terminateCall_effect (id : CallId) :
    Effect env m (.terminateCall id) (m.terminateCall id).1 (m.terminateCall id).2.1 := by
  unfold terminateCall
  cases hc : m.calls.lookup id with
  | none => exact effect_still (fun h => h) rfl
  | some c =>
    dsimp only
    split_ifs with hstate
    · exact effect_still (fun h => h) rfl
    · exact .closed (view_of_lookup hc) (not_not.mp hstate)
        (changed_setCall _ (callView_setState _ _)) ⟨rfl,rfl⟩ (silent_setState _ _ _) rfl

theorem answerCall_effect (id : CallId) :
    Effect env m (.answerCall id) (m.answerCall id).1 (m.answerCall id).2.1 := by
  unfold answerCall
  cases hc : m.calls.lookup id with
  | none => exact effect_still (fun ⟨v,hv,_⟩ => view_missing hc (Option.isSome_of_mem hv)) rfl
  | some c =>
    dsimp only
    split_ifs with hguard
    · exact .picked (view_of_lookup hc) hguard.1 hguard.2
        (changed_setCall _ (callView_handleAnswer _)) ⟨rfl,rfl⟩
        ((silent_handleAnswer _ _).append (silent_stateChanged _ _)) rfl
    · refine effect_still (fun ⟨v,hv,hring⟩ => hguard ?_) rfl
      rw [← Option.some.inj ((view_of_lookup hc).symm.trans hv)] at hring
      exact hring

theorem rejectCall_effect (id : CallId) :
    Effect env m (.rejectCall id) (m.rejectCall id).1 (m.rejectCall id).2.1 := by
  unfold rejectCall
  cases hc : m.calls.lookup id with
  | none => exact effect_still (fun h => h) rfl
  | some c =>
    dsimp only
    split_ifs with hguard
    · exact .ended (callView c).pending (.inr (.inr ⟨.inr rfl,hguard.2⟩)) (view_of_lookup hc)
        (changed_setCall _ (callView_handleEnded _ _)) (.inr rfl) ⟨rfl,rfl⟩
        (oneEnd_quiet _ _ _) rfl
    · exact effect_still (fun h => h) rfl

theorem removeCall_effect (id : CallId) :
    Effect env m (.removeCall id) (m.removeCall id) [] := by
  unfold removeCall
  cases hc : m.calls.lookup id with
  | none => exact effect_still (fun h => h) rfl
  | some c =>
    refine .removed (view_of_lookup hc) (fun k => ?_) (fun d => ?_) rfl rfl
    · rw [view, lookup_erase_eq]
      split_ifs <;> rfl
    · dsimp only
      split
      · next d' hd =>
        rw [lookup_erase_eq, show (callView c).dialogId = some d' from hd]
        simp [eq_comm]
      · next hd =>
        rw [show (callView c).dialogId = none from hd]
        simp

end Operations

section Ticks
variable {env : Env} {now : ℕ} {draws : CallId → Draws} {m m' : CallManager} {out : List Output}
variable {c c' : Call} {r : Option Request}

def Fire.callId : Fire → CallId
  | .refresh id => id
  | .expiry id => id

/-- The call has made a request of its dialog, or none. -/
def Used (c c' : Call) : Prop :=
  c' = c ∨ ∃ d, c.dialog = some d ∧ c' = c.setDialog d.nextCseq

theorem buildUpdateRequest_call {uuid : Text}
    (h : buildUpdateRequest c uuid = some (c',r)) : Used c c' := by
  unfold buildUpdateRequest at h
  split at h
  · rename_i se d hse hd
    obtain ⟨inviteDialog,-,h⟩ := Option.bind_eq_some_iff.mp h
    obtain ⟨update,-,h⟩ := Option.bind_eq_some_iff.mp h
    cases h
    exact .inr ⟨d,hd,rfl⟩
  · cases h
    exact .inl rfl

theorem buildReinviteRefreshRequest_call {addr : Text} {body : Option Bytes} {uuid : Text}
    (h : buildReinviteRefreshRequest addr c body uuid = some (c',r)) : Used c c' := by
  unfold buildReinviteRefreshRequest at h
  split at h
  · rename_i se d hse hd
    obtain ⟨inviteDialog,-,h⟩ := Option.bind_eq_some_iff.mp h
    cases h
    exact .inr ⟨d,hd,rfl⟩
  · cases h
    exact .inl rfl

theorem buildExpiryByeRequest_call {uuid : Text}
    (h : buildExpiryByeRequest c uuid = some (c',r)) : Used c c' := by
  unfold buildExpiryByeRequest at h
  split at h
  · rename_i d hd
    obtain ⟨inviteDialog,-,h⟩ := Option.bind_eq_some_iff.mp h
    split at h
    · cases h
      exact .inr ⟨d,hd,rfl⟩
    · cases h
      exact .inl rfl
  · cases h
    exact .inl rfl

theorem buildRefresh_call {addr : Text} {draws : Draws}
    (h : buildRefresh env addr c draws = some (c',r)) : Used c c' := by
  unfold buildRefresh at h
  split_ifs at h
  · exact buildReinviteRefreshRequest_call h
  · exact buildUpdateRequest_call h

theorem callView_used (h : Used c c') : callView c' = callView c := by
  rcases h with rfl | ⟨d,hd,rfl⟩
  · rfl
  · exact callView_nextCseq hd

theorem view_setCall_same {id : CallId} (hc : m.calls.lookup id = some c)
    (h : callView c' = callView c) (k : CallId) : view (m.setCall id c') k = view m k := by
  rw [view_setCall, h]
  split_ifs with hk
  · rw [hk]
    exact (view_of_lookup hc).symm
  · rfl

theorem fire_view {f : Fire} (h : fire env now draws m f = some (m',out)) :
    ((∀ k, view m' k = view m k) ∨ ∃ v, view m (Fire.callId f) = some v ∧
      Changed m m' (Fire.callId f) { v with state := .terminating }) ∧
    Rest m m' ∧ Silent out ∧ counter m' = counter m := by
  cases f with
  | refresh id =>
    simp only [fire, maybeFireRefresh] at h
    cases hc : m.calls.lookup id with
    | none =>
      rw [hc] at h
      cases h
      exact ⟨.inl fun _ => rfl,Rest.refl m,silent_nil,rfl⟩
    | some c =>
      rw [hc] at h
      dsimp only at h
      split_ifs at h
      · obtain ⟨⟨c',r⟩,hbuild,h⟩ := Option.map_eq_some_iff.mp h
        have hview := callView_used (buildRefresh_call hbuild)
        cases r with
        | none =>
          cases h
          exact ⟨.inl (view_setCall_same hc hview),⟨rfl,rfl⟩,silent_nil,rfl⟩
        | some request =>
          cases h
          exact ⟨.inl (view_setCall_same hc ((callView_slideRefresh c' now).trans hview)),
            ⟨rfl,rfl⟩,silent_outbound _,rfl⟩
      · cases h
        exact ⟨.inl fun _ => rfl,Rest.refl m,silent_nil,rfl⟩
  | expiry id =>
    simp only [fire, maybeFireExpiryBye] at h
    cases hc : m.calls.lookup id with
    | none =>
      rw [hc] at h
      cases h
      exact ⟨.inl fun _ => rfl,Rest.refl m,silent_nil,rfl⟩
    | some c =>
      rw [hc] at h
      dsimp only at h
      split_ifs at h
      · obtain ⟨⟨c',r⟩,hbuild,h⟩ := Option.map_eq_some_iff.mp h
        have hview := callView_used (buildExpiryByeRequest_call hbuild)
        cases r with
        | none =>
          cases h
          exact ⟨.inl fun _ => rfl,Rest.refl m,silent_nil,rfl⟩
        | some bye =>
          cases h
          refine ⟨.inr ⟨callView c,view_of_lookup hc,changed_setCall _ ?_⟩,⟨rfl,rfl⟩,
            (silent_setState _ _ _).append fun _ => ⟨rfl,rfl⟩,rfl⟩
          rw [callView_setState, ← hview]
          rfl
      · cases h
        exact ⟨.inl fun _ => rfl,Rest.refl m,silent_nil,rfl⟩

theorem mem_establishedIds {id : CallId} :
    id ∈ m.establishedIds ↔ ∃ v, view m id = some v ∧ v.state = .established := by
  rw [establishedIds, mem_select_keys]
  constructor
  · rintro ⟨c,hc,hactive⟩
    exact ⟨callView c,view_of_lookup hc,beq_iff_eq.mp hactive⟩
  · rintro ⟨v,hv,hstate⟩
    obtain ⟨c,hc,rfl⟩ := (view_some m).mp hv
    exact ⟨c,hc,beq_iff_eq.mpr hstate⟩

theorem mem_fires {ids : List CallId} {f : Fire} (h : f ∈ fires ids) : Fire.callId f ∈ ids := by
  obtain ⟨id,hid,hf⟩ := List.mem_flatMap.mp h
  simp only [List.mem_cons, List.not_mem_nil, or_false] at hf
  rcases hf with rfl | rfl <;> exact hid

theorem tick_effect (h : m.tick env now draws = some (m',out)) :
    Effect env m (.tick now draws) m' out := by
  -- every call that the loop looks at was established when the tick began
  have hguard : Guarded (fire env now draws)
      (fun _ f => ∃ v, view m (Fire.callId f) = some v ∧ v.state = .established) m
      (fires m.establishedIds) :=
    guarded_of_forall m fun f hf _ => mem_establishedIds.mp (mem_fires hf)
  have hrun := run_guarded_history (h := []) (P := fun s log =>
      (∀ k, view s k = view m k ∨ ∃ v, view m k = some v ∧ v.state = .established ∧
        view s k = some { v with state := .terminating }) ∧ Rest m s ∧ Silent log ∧
      counter s = counter m)
    (fun s log f t log' hp hf hstep => ?_)
    ⟨fun _ => .inl rfl,Rest.refl m,silent_nil,rfl⟩ hguard h
  · exact .ticked hrun.1 hrun.2.1 hrun.2.2.1 hrun.2.2.2
  · obtain ⟨hviews,hrest,hsilent,hcounter⟩ := hp
    obtain ⟨hfired,hrest',hsilent',hcounter'⟩ := fire_view hstep
    refine ⟨fun k => ?_,⟨hrest'.map.trans hrest.map,hrest'.next.trans hrest.next⟩,
      hsilent.append hsilent',hcounter'.trans hcounter⟩
    rcases hfired with hsame | ⟨v,hv,hchanged⟩
    · rw [hsame k]
      exact hviews k
    · rw [hchanged k]
      split_ifs with hk
      · subst hk
        obtain ⟨w,hw,hestablished⟩ := hf
        refine .inr ⟨w,hw,hestablished,?_⟩
        rcases hviews (Fire.callId f) with hsame | ⟨u,hu,-,hclosed⟩
        · rw [hsame, hw] at hv
          cases hv
          rfl
        · rw [hw] at hu
          cases hu
          rw [hclosed] at hv
          cases hv
          rfl
      · exact hviews k

end Ticks

/-- All that an operation can do to the calls. -/
theorem step_effect {env : Env} {op : Op} {out : List Output}
    (h : step env m op = some (m',out)) : Effect env m op m' out := by
  cases op with
  | createCall uri =>
    cases h
    exact .created (fun k => view_addCall m k _) rfl rfl rfl
  | handleIncomingInvite dialog offer =>
    obtain ⟨r,hr,h⟩ := Option.map_eq_some_iff.mp h
    cases h
    exact handleIncomingInvite_effect hr
  | acceptInboundInvite dialog offer =>
    cases h
    exact acceptInboundInvite_effect dialog offer
  | rejectInboundInvite id =>
    cases h
    exact rejectInboundInvite_effect id
  | buildAnswerFor id inputs =>
    cases h
    exact buildAnswerFor_effect id inputs
  | handleInviteSuccess id dialog answer response now =>
    cases h
    exact handleInviteSuccess_effect id dialog answer response now
  | handleProvisional id hasSdp sdp =>
    obtain ⟨rfl,rfl⟩ := Prod.ext_iff.mp (Option.some.inj h)
    exact handleProvisional_effect rfl (fun _ => rfl) (Rest.refl m) rfl
  | handleProvisionalResponse id response sdp contact =>
    obtain ⟨rfl,rfl⟩ := Prod.ext_iff.mp (Option.some.inj h)
    exact handleProvisionalResponse_effect id response sdp contact
  | populateUasDialogRouting id invite contact =>
    cases h
    exact effect_updateCall (fun c => callView_mapDialog c
      fun d => d.populateUasFromInvite_id invite contact) id (fun h => h) rfl
  | handleInviteFailure id code =>
    obtain ⟨rfl,rfl⟩ := Prod.ext_iff.mp (Option.some.inj h)
    exact handleInviteFailure_effect id code
  | handleProvisionalReliable id response uuid =>
    obtain ⟨r,hr,h⟩ := Option.map_eq_some_iff.mp h
    cases h
    exact handleProvisionalReliable_effect hr
  | acceptSessionTimer id se refresher now =>
    cases h
    exact effect_updateCall (fun c => callView_setTimer c _ _ _ _) id (fun h => h) rfl
  | handleInboundUpdate d request now =>
    obtain ⟨r,hr,h⟩ := Option.map_eq_some_iff.mp h
    cases h
    exact handleInboundUpdate_effect hr
  | slideDeadlinesForDialog d now =>
    cases h
    exact slideDeadlinesForDialog_effect d now
  | markInDialog2xx id method now =>
    cases h
    exact markInDialog2xx_effect id method now
  | setUacInFlight id inFlight =>
    cases h
    exact effect_updateCall (f := fun c => { c with uacInFlight := inFlight }) (fun _ => rfl) id
      (fun h => h) rfl
  | noteUpdateUnsupported id =>
    cases h
    exact effect_updateCall (f := fun c => { c with updateUnsupported := true }) (fun _ => rfl) id
      (fun h => h) rfl
  | tick now draws => exact tick_effect h
  | handleBye d =>
    obtain ⟨rfl,rfl⟩ := Prod.ext_iff.mp (Option.some.inj h)
    exact handleBye_effect d
  | terminateCall id =>
    cases h
    exact terminateCall_effect id
  | removeCall id =>
    cases h
    exact removeCall_effect id
  | answerCall id =>
    cases h
    exact answerCall_effect id
  | rejectCall id =>
    cases h
    exact rejectCall_effect id

section Identifiers
variable {env : Env} {m m' : CallManager} {op : Op} {out : List Output}

def Fresh (m : CallManager) : Prop := ∀ id v, view m id = some v → id < m.nextId

theorem Fresh.changed {id : CallId} {v : View} (hfresh : Fresh m) (hviews : Changed m m' id v)
    (hid : id < m'.nextId) (hnext : m.nextId ≤ m'.nextId) : Fresh m' := by
  intro k w hw
  rw [hviews k] at hw
  split_ifs at hw with hk
  · exact hk ▸ hid
  · exact (hfresh k w hw).trans_le hnext

theorem Fresh.kept {id : CallId} {v w : View} (hfresh : Fresh m) (hv : view m id = some v)
    (hviews : Changed m m' id w) (hnext : m'.nextId = m.nextId) : Fresh m' :=
  hfresh.changed hviews (hnext ▸ hfresh id v hv) hnext.ge

theorem fresh_step (hfresh : Fresh m) (h : step env m op = some (m',out)) : Fresh m' := by
  cases step_effect h with
  | quiet hviews hmap hnext =>
    intro k v hv
    exact (hfresh k v (hviews k ▸ hv)).trans_le hnext
  | created hviews hmap hnext | invited dialog port pending hop hviews hmap hnext =>
    exact hfresh.changed hviews (hnext ▸ Nat.lt_succ_self _) (hnext ▸ Nat.le_succ _)
  | answered hv htaken hviews hmap hnext => exact hfresh.kept hv hviews hnext
  | progressed _ hv hviews hrest | stalled hv _ _ hviews hrest | ended _ _ hv hviews _ hrest
  | picked hv _ _ hviews hrest | closed hv _ hviews hrest | built hv _ _ _ hviews hrest
  | dropped hv _ _ hviews hrest => exact hfresh.kept hv hviews hrest.next
  | removed hv hviews hmap hnext =>
    intro k w hw
    rw [hviews k] at hw
    split_ifs at hw
    exact hnext ▸ hfresh k w hw
  | ticked hviews hrest =>
    intro k w hw
    rw [hrest.next]
    rcases hviews k with hk | ⟨v,hv,-⟩
    · exact hfresh k w (hk ▸ hw)
    · exact hfresh k v hv

theorem fresh_new (config : ManagerConfig) : Fresh (.new config) := fun _ _ h => nomatch h

end Identifiers

end RsipRtp.CallViews
