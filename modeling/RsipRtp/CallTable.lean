import RsipRtp.CallSession

/-!
# The call manager

The manager files its calls under fresh identifiers and remembers which call a
dialog belongs to.
-/

namespace RsipRtp.CallTable
open SipText SipHeader SipMessage OutputMachine FiniteMap Sdp SdpNegotiation SdpText SessionTimer
open StunMessage CallSession
open DeferredAnswer (IceAnswerInputs patchOffer)
open Dialog (DialogId DialogInfo InviteDialog)

/-- Identifiers are random in the source. Here they are numbered in the order
in which they are drawn, as if none came twice. -/
abbrev CallId := ℕ

inductive OutboundRequestKind where
  | prack
  | sessionTimerUpdate
  | sessionTimerReInvite
  | sessionTimerExpiryBye
deriving DecidableEq

structure OutboundRequest where
  callId : CallId
  request : Request
  kind : OutboundRequestKind

inductive ManagerEvent where
  | incomingCall (callId : CallId)
  | callStateChanged (callId : CallId) (state : CallState)
  | callEvent (callId : CallId) (event : CallEvent)

inductive Output where
  | manager (event : ManagerEvent)
  | call (callId : CallId) (event : CallEvent)
  | outbound (request : OutboundRequest)

structure CallConfig where
  codecs : List Codec
  minSe : ℕ

structure ManagerConfig where
  localRtpAddr : Text
  rtpPortRange : UInt16 × UInt16
  callConfig : CallConfig

structure CallManager where
  config : ManagerConfig
  calls : Map CallId Call
  dialogToCall : Map DialogId CallId
  nextRtpPort : UInt16
  nextId : CallId

inductive InboundSessionTimer where
  | disabled
  | accept (sessionExpires : ℕ) (refresher : Refresher)
  | reject422 (minSe : ℕ)
deriving DecidableEq

def fromSecs (secs : ℕ) : ℕ := secs*10^9
def asSecs (duration : ℕ) : ℕ := duration/10^9
def asSecs32 (duration : ℕ) : ℕ := asSecs duration % 2^32

structure Draws where
  refreshUuid : Text
  sessionId : UInt64
  byeUuid : Text

def rtpmapAttribute (pt : UInt8) (encoding : Text) (rate : UInt32) (channels : Option UInt8) :
    Attribute :=
  ⟨"rtpmap",some (u8Text pt++ ' '::encoding++ '/'::u32Text rate++
    (channels.map (fun ch => '/'::u8Text ch)).getD [])⟩

def refreshMedia (std : StdText) (codec : Codec) (localPort : UInt16) : MediaDescription :=
  let name := std.toUppercase codec.encoding
  let (pt,rtpmap) :=
    if name = "PCMU" then ((0 : UInt8),rtpmapAttribute 0 "PCMU" 8000 none)
    else if name = "PCMA" then (8,rtpmapAttribute 8 "PCMA" 8000 none)
    else if name = "G722" then (9,rtpmapAttribute 9 "G722" 8000 none)
    else (codec.payloadType,
      rtpmapAttribute codec.payloadType name codec.clockRate (some codec.channels))
  { mediaType := .audio, port := localPort, numPorts := none, protocol := "RTP/AVP"
    formats := [u8Text pt], connection := none, bandwidth := ∅
    attributes := [rtpmap,⟨Direction.sendRecv.name,none⟩] }

def addrType : IpAddr → Text
  | .v4 _ => "IP4"
  | .v6 _ => "IP6"

def refreshDescription (std : StdText) (localAddr : IpAddr) (sessionId : UInt64)
    (media : MediaDescription) : SessionDescription :=
  { version := 0
    origin := ⟨['-'],u64Text sessionId,['1'],"IN",addrType localAddr,std.ipText localAddr⟩
    sessionName := "rsiprtp refresh"
    sessionInfo := none
    connection := some ⟨"IN",addrType localAddr,std.ipText localAddr⟩
    timing := ⟨0,0⟩
    media := [media]
    attributes := [] }

def buildRefreshInviteSdp (env : Env) (localRtpAddr : Text) (c : Call) (sessionId : UInt64) :
    Option Bytes := do
  let media ← c.media
  let negotiated ← c.negotiatedMedia
  let localAddr ← env.std.parseIp localRtpAddr
  return utf8 (fmt (refreshDescription env.std localAddr sessionId
    (refreshMedia env.std negotiated.codec media.localPort)))

def reinviteBuilder (info : DialogInfo) (localRtpAddr : Text) (cseq secs : ℕ)
    (body : Option Bytes) (uuid : Text) : SipRequestBuilder :=
  let b : SipRequestBuilder := { method := some .invite }
  let b := b.setUri (if info.remoteTarget.isEmpty then info.remoteUri else info.remoteTarget)
  let b := b.setVia localRtpAddr 5060 "UDP" (InviteDialog.branch uuid)
  let b := b.setFrom info.localUri info.id.localTag
  let b := b.setTo info.remoteUri
  let b := { b with toTag := some info.id.remoteTag, callId := some info.id.callId
                    cseq := some cseq, maxForwards := some 70 }
  let b := { b.setRoute info.routeSet.routes with
    sessionExpires := some ⟨secs,some .uac⟩
    supported := some ["timer"]
    allow := some InviteDialog.allowed }
  { InviteDialog.withContact info b with
    body, contentType := body.map (fun _ => "application/sdp") }

/-- The call with the number that was used up, and the request if there is
one; nothing at all where the source panics. -/
def buildUpdateRequest (c : Call) (uuid : Text) : Option (Call × Option Request) :=
  match c.sessionExpires, c.dialog with
  | some se, some d => do
    let inviteDialog ← d.toInviteDialog
    let (_,update) ← inviteDialog.buildUpdate (some (asSecs32 se)) uuid
    return (c.setDialog d.nextCseq,some update)
  | _, _ => some (c,none)

def buildReinviteRefreshRequest (localRtpAddr : Text) (c : Call) (body : Option Bytes)
    (uuid : Text) : Option (Call × Option Request) :=
  match c.sessionExpires, c.dialog with
  | some se, some d => do
    let inviteDialog ← d.toInviteDialog
    let next := d.nextCseq
    return (c.setDialog next,ok (reinviteBuilder inviteDialog.info localRtpAddr next.localCseq
      (asSecs32 se) body uuid).build)
  | _, _ => some (c,none)

def expiryReason : Text := "SIP;cause=200;text=\"Session timer expired\""

def buildExpiryByeRequest (c : Call) (uuid : Text) : Option (Call × Option Request) :=
  match c.dialog with
  | some d => do
    let inviteDialog ← d.toInviteDialog
    match (inviteDialog.buildByeWithReason expiryReason uuid).2.2 with
    | some bye => return (c.setDialog d.nextCseq,some bye)
    | none => return (c,none)
  | none => some (c,none)

namespace CallManager

def new (config : ManagerConfig) : CallManager :=
  { config, calls := ∅, dialogToCall := ∅, nextRtpPort := config.rtpPortRange.1, nextId := 0 }

def setCall (m : CallManager) (callId : CallId) (c : Call) : CallManager :=
  { m with calls := m.calls.insert callId c }

def updateCall (m : CallManager) (callId : CallId) (f : Call → Call) : CallManager :=
  match m.calls.lookup callId with
  | some c => m.setCall callId (f c)
  | none => m

def mapDialogId (m : CallManager) (dialogId : DialogId) (callId : CallId) : CallManager :=
  { m with dialogToCall := m.dialogToCall.insert dialogId callId }

def callByDialog (m : CallManager) (dialogId : DialogId) : Option (CallId × Call) := do
  let callId ← m.dialogToCall.lookup dialogId
  let c ← m.calls.lookup callId
  return (callId,c)

def allocateRtpPort (m : CallManager) : CallManager × UInt16 :=
  let next := m.nextRtpPort+2
  ({ m with nextRtpPort :=
      if next > m.config.rtpPortRange.2 then m.config.rtpPortRange.1 else next },m.nextRtpPort)

def addCall (m : CallManager) (c : Call) : CallManager :=
  { m.setCall m.nextId c with nextId := m.nextId+1 }

def createCall (m : CallManager) (remoteUri : Text) : CallManager × CallId :=
  (m.addCall (.newOutbound remoteUri),m.nextId)

def registerInbound (m : CallManager) (dialog : Dialog) (c : Call) : CallManager × List Output :=
  ((m.addCall c).mapDialogId dialog.id m.nextId,
    [.call m.nextId (.stateChanged .ringing),.manager (.incomingCall m.nextId)])

variable (env : Env)

def createInboundCallInternal (m : CallManager) (dialog : Dialog) (media : NegotiatedMedia)
    (localPort : UInt16) : CallManager × List Output × Option CallId :=
  match (Call.newInbound dialog.remoteUri dialog).setNegotiatedMedia env media localPort with
  | none => ({ m with nextId := m.nextId+1 },[],none)
  | some c =>
    let r := m.registerInbound dialog c
    (r.1,r.2,some m.nextId)

def handleIncomingInvite (m : CallManager) (dialog : Dialog) (offer : SessionDescription) :
    Option (CallManager × List Output × Option (CallId × SessionDescription × UInt16)) :=
  let (m,localPort) := m.allocateRtpPort
  match createAnswer env.std m.config.callConfig.codecs offer localPort with
  | none => some (m,[],none)
  | some (answer,negotiated) => negotiated.head?.map (fun media =>
      let r := m.createInboundCallInternal env dialog media localPort
      (r.1,r.2.1,r.2.2.map (fun callId => (callId,answer,localPort))))

def acceptInboundInvite (m : CallManager) (dialog : Dialog) (offer : SessionDescription) :
    CallManager × List Output × Option CallId :=
  match (createAnswer env.std m.config.callConfig.codecs offer 0).bind (fun r => r.2.getLast?) with
  | none => (m,[],none)
  | some media =>
    let r := m.registerInbound dialog
      (.newInboundPending dialog.remoteUri dialog ⟨offer,media⟩)
    (r.1,r.2,some m.nextId)

def rejectInboundInvite (m : CallManager) (callId : CallId) :
    CallManager × List Output × Option DialogId :=
  match m.calls.lookup callId with
  | none => (m,[],none)
  | some c =>
    if c.state ≠ .ringing ∨ c.pendingAnswer.isNone then (m,[],none)
    else
      let r := { c with pendingAnswer := none }.handleEnded .error
      (m.setCall callId r.1,
        r.2.map (.call callId)++[.manager (.callEvent callId (.ended .error))],r.1.dialogId)

def buildAnswerFor (m : CallManager) (callId : CallId) (inputs : IceAnswerInputs) :
    CallManager × List Output × Option SessionDescription :=
  match m.calls.lookup callId with
  | none => (m,[],none)
  | some c => match c.pendingAnswer with
    | none => (m,[],none)
    | some pending =>
      let taken := { c with pendingAnswer := none }
      match patchOffer env.std pending inputs with
      | none => (m.setCall callId taken,[],none)
      | some answer => match taken.setNegotiatedMedia env pending.negotiated inputs.port with
        | none => (m.setCall callId taken,[],none)
        | some c => (m.setCall callId c,[],some answer)

def applyInvite2xxSessionTimer (c : Call) (response : SipResponse) (now : ℕ) : Call :=
  match sessionExpires response.inner.headers with
  | none => c
  | some se =>
    let refresher := se.refresher.getD .uac
    c.setTimer (fromSecs se.deltaSeconds) refresher (refresher == .uac) now

def timerFromAnswer (c : Call) (now : ℕ) : Option SipResponse → Call
  | some response => applyInvite2xxSessionTimer c response now
  | none => c

def routeFromAnswer (dialog : Dialog) : Option SipResponse → Dialog
  | some response => dialog.route response.recordRoutes response.contactUri true
  | none => dialog

/-- The port is used up before the call is looked for, and the dialog is
set before the media session is tried. -/
def handleInviteSuccess (m : CallManager) (callId : CallId) (dialog : Dialog)
    (answer : SessionDescription) (response : Option SipResponse) (now : ℕ) :
    CallManager × List Output × Bool :=
  match (processAnswer answer).head? with
  | none => (m,[],false)
  | some media =>
    let (m,localPort) := m.allocateRtpPort
    match m.calls.lookup callId with
    | none => (m,[],false)
    | some c =>
      let dialog := routeFromAnswer dialog response
      let c := c.setDialog dialog
      match c.setNegotiatedMedia env media localPort with
      | none => (m.setCall callId c,[],false)
      | some c =>
        let r := c.handleAnswer
        ((m.setCall callId (timerFromAnswer r.1 now response)).mapDialogId dialog.id callId,
          r.2.map (.call callId)++[.manager (.callStateChanged callId .established)],true)

def earlyMedia (c : Call) (hasSdp : Bool) (sdp : Option SessionDescription)
    (localPort : UInt16) : Option Call :=
  (if hasSdp then sdp else none).bind (fun answer =>
    (processAnswer answer).head?.bind (fun media => c.setNegotiatedMedia env media localPort))

def handleProvisional (m : CallManager) (callId : CallId) (hasSdp : Bool)
    (sdp : Option SessionDescription) : CallManager × List Output :=
  let (m,localPort) := m.allocateRtpPort
  match m.calls.lookup callId with
  | none => (m,[])
  | some c =>
    let r := ((earlyMedia env c hasSdp sdp localPort).getD c).handleProvisional hasSdp
    (m.setCall callId r.1,
      r.2.map (.call callId)++[.manager (.callStateChanged callId r.1.state)])

def handleProvisionalResponse (m : CallManager) (callId : CallId) (response : SipResponse)
    (sdp : Option SessionDescription) (localContact : Text) : CallManager × List Output :=
  let m := if response.toTag.isSome then
      m.updateCall callId (Call.mapDialog · (·.populateUacFromResponse response localContact))
    else m
  m.handleProvisional env callId sdp.isSome sdp

def populateUasDialogRouting (m : CallManager) (callId : CallId) (invite : SipRequest)
    (localContact : Text) : CallManager :=
  m.updateCall callId (Call.mapDialog · (·.populateUasFromInvite invite localContact))

def endCall (m : CallManager) (callId : CallId) (c : Call) (reason : CallEndReason) :
    CallManager × List Output :=
  let r := c.handleEnded reason
  (m.setCall callId r.1,r.2.map (.call callId)++[.manager (.callEvent callId (.ended reason))])

def failureReason (statusCode : ℕ) : CallEndReason :=
  if statusCode = 486 then .busy
  else if statusCode = 480 ∨ statusCode = 408 then .noAnswer
  else if statusCode = 603 then .rejected
  else .error

def handleInviteFailure (m : CallManager) (callId : CallId) (statusCode : ℕ) :
    CallManager × List Output :=
  match m.calls.lookup callId with
  | none => (m,[])
  | some c => m.endCall callId c (failureReason statusCode)

def handleProvisionalReliable (m : CallManager) (callId : CallId) (response : SipResponse)
    (uuid : Text) : Option (CallManager × List Output × Option Request) :=
  match response.rseq, m.calls.lookup callId with
  | some _, some c => match c.dialog with
    | none => some (m,[],none)
    | some d => do
      let inviteDialog ← d.toInviteDialog
      let (_,prack) ← inviteDialog.buildPrack response uuid
      return (m.setCall callId (c.setDialog d.nextCseq),
        [.outbound ⟨callId,prack,.prack⟩],some prack)
  | _, _ => some (m,[],none)

def evaluateInboundInviteSessionTimer (m : CallManager) (request : SipRequest) :
    InboundSessionTimer :=
  match sessionExpires request.inner.headers with
  | none => .disabled
  | some se =>
    if se.deltaSeconds < asSecs m.config.callConfig.minSe then
      .reject422 (asSecs32 m.config.callConfig.minSe)
    else .accept (fromSecs se.deltaSeconds) (if supportsTimer request then .uac else .uas)

def acceptSessionTimer (m : CallManager) (callId : CallId) (sessionExpires : ℕ)
    (refresher : Refresher) (now : ℕ) : CallManager :=
  m.updateCall callId (fun c => c.setTimer sessionExpires refresher (refresher == .uas) now)

def adoptInterval (c : Call) (request : SipRequest) : Call :=
  match SessionTimer.sessionExpires request.inner.headers with
  | some se => { c with sessionExpires := some (fromSecs se.deltaSeconds) }
  | none => c

def tooSmall (m : CallManager) (request : SipRequest) : Option (Option SipResponse) :=
  match SessionTimer.sessionExpires request.inner.headers with
  | some se =>
    if se.deltaSeconds < asSecs m.config.callConfig.minSe then
      let b : SipResponseBuilder := {}
      let b := (b.status 422 "Session Interval Too Small").fromRequest request
      some (ok { b with minSe := some (asSecs32 m.config.callConfig.minSe) }.build)
    else none
  | none => none

def handleInboundUpdate (m : CallManager) (dialogId : DialogId) (request : SipRequest)
    (now : ℕ) : Option (CallManager × List Output × Option SipResponse) :=
  match m.callByDialog dialogId with
  | none => some (m,[],none)
  | some (callId,c) => match m.tooSmall request with
    | some refusal => some (m,[],refusal)
    | none =>
      let c := (adoptInterval c request).slideDeadlines now
      let m := m.setCall callId c
      match c.dialog with
      | none => some (m,[],none)
      | some d => do
        let inviteDialog ← d.toInviteDialog
        let response ← handleUpdate inviteDialog request
        return (m,[],some response)

def slideDeadlinesForDialog (m : CallManager) (dialogId : DialogId) (now : ℕ) : CallManager :=
  match m.dialogToCall.lookup dialogId with
  | some callId => m.updateCall callId (·.slideDeadlines now)
  | none => m

def markInDialog2xx (m : CallManager) (callId : CallId) (method : Method) (now : ℕ) :
    CallManager :=
  if method = .update ∨ method = .invite then m.updateCall callId (·.slideDeadlines now) else m

def setUacInFlight (m : CallManager) (callId : CallId) (inFlight : Bool) : CallManager :=
  m.updateCall callId (fun c => { c with uacInFlight := inFlight })

def noteUpdateUnsupported (m : CallManager) (callId : CallId) : CallManager :=
  m.updateCall callId (fun c => { c with updateUnsupported := true })

/-- What a tick looks at, call by call: first the refresh, then the expiry. -/
inductive Fire where
  | refresh (callId : CallId)
  | expiry (callId : CallId)

def refreshDue (c : Call) (now : ℕ) : Bool :=
  c.refreshAt.any (· ≤ now) && !c.uacInFlight && c.dialog.isSome

def buildRefresh (localRtpAddr : Text) (c : Call) (draws : Draws) :
    Option (Call × Option Request) :=
  if c.updateUnsupported then
    buildReinviteRefreshRequest localRtpAddr c
      (buildRefreshInviteSdp env localRtpAddr c draws.sessionId) draws.refreshUuid
  else buildUpdateRequest c draws.refreshUuid

def refreshKind (c : Call) : OutboundRequestKind :=
  if c.updateUnsupported then .sessionTimerReInvite else .sessionTimerUpdate

def slideRefresh (c : Call) (now : ℕ) : Call :=
  match c.sessionExpires with
  | some se => { c with refreshAt := some (now+se/2) }
  | none => c

def maybeFireRefresh (now : ℕ) (draws : Draws) (m : CallManager) (callId : CallId) :
    Option (CallManager × List Output) :=
  match m.calls.lookup callId with
  | none => some (m,[])
  | some c =>
    if refreshDue c now then
      (buildRefresh env m.config.localRtpAddr c draws).map (fun
        | (c',some request) => (m.setCall callId (slideRefresh c' now),
            [.outbound ⟨callId,request,refreshKind c⟩])
        | (c',none) => (m.setCall callId c',[]))
    else some (m,[])

def maybeFireExpiryBye (now : ℕ) (draws : Draws) (m : CallManager) (callId : CallId) :
    Option (CallManager × List Output) :=
  match m.calls.lookup callId with
  | none => some (m,[])
  | some c =>
    if c.expiryAt.any (· ≤ now) then
      (buildExpiryByeRequest c draws.byeUuid).map (fun
        | (c',some bye) =>
          let r := { c' with expiryAt := none }.setState .terminating
          (m.setCall callId r.1,r.2.map (.call callId)++
            [.outbound ⟨callId,bye,.sessionTimerExpiryBye⟩,
              .manager (.callStateChanged callId .terminating)])
        | (_,none) => (m,[]))
    else some (m,[])

def fire (now : ℕ) (draws : CallId → Draws) : Step CallManager Fire Output
  | m, .refresh callId => m.maybeFireRefresh env now (draws callId) callId
  | m, .expiry callId => m.maybeFireExpiryBye now (draws callId) callId

def establishedIds (m : CallManager) : List CallId :=
  (select m.calls Call.isActive).map Prod.fst

def fires (ids : List CallId) : List Fire := ids.flatMap (fun id => [.refresh id,.expiry id])

def tick (m : CallManager) (now : ℕ) (draws : CallId → Draws) :
    Option (CallManager × List Output) :=
  run (fire env now draws) m (fires m.establishedIds)

def handleBye (m : CallManager) (dialogId : DialogId) : CallManager × List Output :=
  match m.callByDialog dialogId with
  | some (callId,c) => m.endCall callId c .normalClearing
  | none => (m,[])

def terminateCall (m : CallManager) (callId : CallId) :
    CallManager × List Output × Option DialogId :=
  match m.calls.lookup callId with
  | none => (m,[],none)
  | some c =>
    if c.state ≠ .established then (m,[],none)
    else
      let r := c.setState .terminating
      (m.setCall callId r.1,r.2.map (.call callId),c.dialogId)

def removeCall (m : CallManager) (callId : CallId) : CallManager :=
  match m.calls.lookup callId with
  | none => m
  | some c =>
    { m with
      calls := m.calls.erase callId
      dialogToCall := match c.dialogId with
        | some dialogId => m.dialogToCall.erase dialogId
        | none => m.dialogToCall }

def answerCall (m : CallManager) (callId : CallId) : CallManager × List Output × Bool :=
  match m.calls.lookup callId with
  | none => (m,[],false)
  | some c =>
    if c.direction = .inbound ∧ c.state = .ringing then
      let r := c.handleAnswer
      (m.setCall callId r.1,
        r.2.map (.call callId)++[.manager (.callStateChanged callId .established)],true)
    else (m,[],false)

def rejectCall (m : CallManager) (callId : CallId) :
    CallManager × List Output × Option DialogId :=
  match m.calls.lookup callId with
  | none => (m,[],none)
  | some c =>
    if c.direction = .inbound ∧ c.state = .ringing then
      let r := c.handleEnded .rejected
      (m.setCall callId r.1,r.2.map (.call callId),c.dialogId)
    else (m,[],none)

end CallManager

inductive Op where
  | createCall (remoteUri : Text)
  | handleIncomingInvite (dialog : Dialog) (offer : SessionDescription)
  | acceptInboundInvite (dialog : Dialog) (offer : SessionDescription)
  | rejectInboundInvite (callId : CallId)
  | buildAnswerFor (callId : CallId) (inputs : IceAnswerInputs)
  | handleInviteSuccess (callId : CallId) (dialog : Dialog) (answer : SessionDescription)
      (response : Option SipResponse) (now : ℕ)
  | handleProvisional (callId : CallId) (hasSdp : Bool) (sdp : Option SessionDescription)
  | handleProvisionalResponse (callId : CallId) (response : SipResponse)
      (sdp : Option SessionDescription) (localContact : Text)
  | populateUasDialogRouting (callId : CallId) (invite : SipRequest) (localContact : Text)
  | handleInviteFailure (callId : CallId) (statusCode : ℕ)
  | handleProvisionalReliable (callId : CallId) (response : SipResponse) (uuid : Text)
  | acceptSessionTimer (callId : CallId) (sessionExpires : ℕ) (refresher : Refresher) (now : ℕ)
  | handleInboundUpdate (dialogId : DialogId) (request : SipRequest) (now : ℕ)
  | slideDeadlinesForDialog (dialogId : DialogId) (now : ℕ)
  | markInDialog2xx (callId : CallId) (method : Method) (now : ℕ)
  | setUacInFlight (callId : CallId) (inFlight : Bool)
  | noteUpdateUnsupported (callId : CallId)
  | tick (now : ℕ) (draws : CallId → Draws)
  | handleBye (dialogId : DialogId)
  | terminateCall (callId : CallId)
  | removeCall (callId : CallId)
  | answerCall (callId : CallId)
  | rejectCall (callId : CallId)

def effect {α : Type} (r : CallManager × List Output × α) : CallManager × List Output :=
  (r.1,r.2.1)

def step (env : Env) : Step CallManager Op Output
  | m, .createCall remoteUri => some ((m.createCall remoteUri).1,[])
  | m, .handleIncomingInvite dialog offer => (m.handleIncomingInvite env dialog offer).map effect
  | m, .acceptInboundInvite dialog offer => some (effect (m.acceptInboundInvite env dialog offer))
  | m, .rejectInboundInvite callId => some (effect (m.rejectInboundInvite callId))
  | m, .buildAnswerFor callId inputs => some (effect (m.buildAnswerFor env callId inputs))
  | m, .handleInviteSuccess callId dialog answer response now =>
    some (effect (m.handleInviteSuccess env callId dialog answer response now))
  | m, .handleProvisional callId hasSdp sdp => some (m.handleProvisional env callId hasSdp sdp)
  | m, .handleProvisionalResponse callId response sdp localContact =>
    some (m.handleProvisionalResponse env callId response sdp localContact)
  | m, .populateUasDialogRouting callId invite localContact =>
    some (m.populateUasDialogRouting callId invite localContact,[])
  | m, .handleInviteFailure callId statusCode => some (m.handleInviteFailure callId statusCode)
  | m, .handleProvisionalReliable callId response uuid =>
    (m.handleProvisionalReliable callId response uuid).map effect
  | m, .acceptSessionTimer callId sessionExpires refresher now =>
    some (m.acceptSessionTimer callId sessionExpires refresher now,[])
  | m, .handleInboundUpdate dialogId request now =>
    (m.handleInboundUpdate dialogId request now).map effect
  | m, .slideDeadlinesForDialog dialogId now => some (m.slideDeadlinesForDialog dialogId now,[])
  | m, .markInDialog2xx callId method now => some (m.markInDialog2xx callId method now,[])
  | m, .setUacInFlight callId inFlight => some (m.setUacInFlight callId inFlight,[])
  | m, .noteUpdateUnsupported callId => some (m.noteUpdateUnsupported callId,[])
  | m, .tick now draws => m.tick env now draws
  | m, .handleBye dialogId => some (m.handleBye dialogId)
  | m, .terminateCall callId => some (effect (m.terminateCall callId))
  | m, .removeCall callId => some (m.removeCall callId,[])
  | m, .answerCall callId => some (effect (m.answerCall callId))
  | m, .rejectCall callId => some (effect (m.rejectCall callId))

section Samples
open SdpAgreement (asciiText createMedia createOffer)

def createEnv : Env := ⟨asciiText,true⟩

def createConfig : ManagerConfig :=
  ⟨"192.0.2.5",(10000,10004),⟨[.pcmu,.pcma],fromSecs 90⟩⟩

def createUas (callId : Text) : Dialog :=
  .newUas callId "bob" "alice" "sip:alice@a.example"
    "sip:bob@b.example" 1

def createUac (callId : Text) : Dialog :=
  .newUac callId "alice" "bob" "sip:alice@a.example"
    "sip:bob@b.example" 1

def speech : SessionDescription := createOffer [createMedia .audio ["0"] []]

end Samples

end RsipRtp.CallTable
