import RsipRtp.OutputMachine
import RsipRtp.SipMessage

/-!
# INVITE dialogs

A dialog is created from an INVITE, sent or received, and then driven by
responses, requests and the calls of its user. The random part of a Via branch
is an argument here.
-/

namespace RsipRtp.Dialog
open SipText Uri SipHeader SipMessage OutputMachine

structure DialogId where
  callId : Text
  localTag : Text
  remoteTag : Text
deriving DecidableEq

def DialogId.fromResponseUac (response : SipResponse) : Option DialogId := do
  let callId ← ok response.callId
  let localTag ← ok response.fromTag
  let remoteTag ← response.toTag
  return { callId, localTag, remoteTag }

inductive DialogState where
  | early
  | confirmed
  | terminating
  | terminated
deriving DecidableEq

structure RecordRoute where
  uri : SipUri
  lr : Bool

def parseRecordRoute (value : Text) : Except SipError RecordRoute :=
  match trim value with
  | '<'::inner => match splitFirst '>' inner with
    | none => .error (.parse "Record-Route URI missing closing >")
    | some (uri,params) => (parse uri).map (fun uri =>
        { uri, lr := decide ("lr" <:+: params) })
  | _ => .error (.parse "Record-Route must have URI in angle brackets")

def parseAllRecordRoutes (values : List Text) : List RecordRoute :=
  values.flatMap
    (fun value => (value.splitOn ',').filterMap (fun part => ok (parseRecordRoute part)))

def RecordRoute.toHeaderValue (rr : RecordRoute) : Text :=
  if rr.lr then '<'::display rr.uri++ ">;lr" else '<'::display rr.uri++ ['>']

structure RouteSet where
  routes : List Text
  looseRouting : Bool

def RouteSet.fromRecordRouteValues (values : List Text) (reverse : Bool) : RouteSet :=
  let recordRoutes := parseAllRecordRoutes values
  let routes := recordRoutes.map RecordRoute.toHeaderValue
  { routes := if reverse then routes.reverse else routes
    looseRouting := (recordRoutes.head?.map RecordRoute.lr).getD false }

structure DialogInfo where
  id : DialogId
  state : DialogState
  localSeq : ℕ
  remoteSeq : Option ℕ
  localUri : Text
  remoteUri : Text
  remoteTarget : Text
  localContact : Text
  routeSet : RouteSet
  secure : Bool

namespace DialogInfo

variable {request : SipRequest} {state : DialogState} {info : DialogInfo}

def detectSecureTransport (request : SipRequest) : Bool :=
  match request.viaHeadersRaw.head? with
  | none => false
  | some firstVia =>
    match parseHeaderVia (trim ((stripPrefix "Via:" (trim firstVia)).getD firstVia)) with
    | .ok via => eqIgnoreAsciiCase via.protocol "TLS"
    | .error _ => false

def fromInviteResponseUac (request : SipRequest) (response : SipResponse) (state : DialogState) :
    Option DialogInfo := do
  let id ← DialogId.fromResponseUac response
  let localUri ← ok request.fromUri
  let remoteUri ← ok request.toUri
  let remoteTarget ← response.contactUri
  let localSeq ← ok request.cseq
  return { id, state, localSeq, remoteSeq := none, localUri := display localUri
           remoteUri := display remoteUri, remoteTarget := display remoteTarget
           localContact := (request.contactUri.map display).getD []
           routeSet := RouteSet.fromRecordRouteValues response.recordRoutes true
           secure := detectSecureTransport request }

def fromInviteUas (request : SipRequest) (localTag localContact : Text) (state : DialogState) :
    Option DialogInfo := do
  let callId ← ok request.callId
  let (remoteTag,remoteUri) ← ok request.fromTagAndUri
  let localUri ← ok request.toUri
  let remoteTarget ← request.contactUri
  let remoteSeq ← ok request.cseq
  return { id := { callId, localTag, remoteTag }, state, localSeq := 0, remoteSeq := some remoteSeq
           localUri := display localUri, remoteUri := display remoteUri
           remoteTarget := display remoteTarget, localContact
           routeSet := RouteSet.fromRecordRouteValues request.recordRoutes false
           secure := detectSecureTransport request }

theorem fromInviteResponseUac_spec {response : SipResponse}
    (h : fromInviteResponseUac request response state = some info) :
    info.state = state ∧ DialogId.fromResponseUac response = some info.id ∧
      ok request.cseq = some info.localSeq := by
  obtain ⟨id,hid,h⟩ := Option.bind_eq_some_iff.mp h
  obtain ⟨localUri,-,h⟩ := Option.bind_eq_some_iff.mp h
  obtain ⟨remoteUri,-,h⟩ := Option.bind_eq_some_iff.mp h
  obtain ⟨remoteTarget,-,h⟩ := Option.bind_eq_some_iff.mp h
  obtain ⟨localSeq,hseq,h⟩ := Option.bind_eq_some_iff.mp h
  cases h
  exact ⟨rfl,hid,hseq⟩

theorem fromInviteResponseUac_remoteSeq {response : SipResponse}
    (h : fromInviteResponseUac request response state = some info) : info.remoteSeq = none := by
  obtain ⟨id,-,h⟩ := Option.bind_eq_some_iff.mp h
  obtain ⟨localUri,-,h⟩ := Option.bind_eq_some_iff.mp h
  obtain ⟨remoteUri,-,h⟩ := Option.bind_eq_some_iff.mp h
  obtain ⟨remoteTarget,-,h⟩ := Option.bind_eq_some_iff.mp h
  obtain ⟨localSeq,-,h⟩ := Option.bind_eq_some_iff.mp h
  cases h
  rfl

theorem fromInviteUas_remoteSeq {localTag localContact : Text}
    (h : fromInviteUas request localTag localContact state = some info) :
    info.remoteSeq = ok request.cseq := by
  obtain ⟨callId,-,h⟩ := Option.bind_eq_some_iff.mp h
  obtain ⟨remote,-,h⟩ := Option.bind_eq_some_iff.mp h
  obtain ⟨localUri,-,h⟩ := Option.bind_eq_some_iff.mp h
  obtain ⟨remoteTarget,-,h⟩ := Option.bind_eq_some_iff.mp h
  obtain ⟨remoteSeq,hseq,h⟩ := Option.bind_eq_some_iff.mp h
  cases h
  exact hseq.symm

theorem fromInviteUas_spec {localTag localContact : Text}
    (h : fromInviteUas request localTag localContact state = some info) :
    info.state = state ∧ info.localSeq = 0 ∧ info.id.localTag = localTag ∧
      ok request.callId = some info.id.callId ∧ ok request.fromTag = some info.id.remoteTag := by
  obtain ⟨callId,hcall,h⟩ := Option.bind_eq_some_iff.mp h
  obtain ⟨⟨remoteTag,remoteUri⟩,hfrom,h⟩ := Option.bind_eq_some_iff.mp h
  obtain ⟨localUri,-,h⟩ := Option.bind_eq_some_iff.mp h
  obtain ⟨remoteTarget,-,h⟩ := Option.bind_eq_some_iff.mp h
  obtain ⟨remoteSeq,-,h⟩ := Option.bind_eq_some_iff.mp h
  cases h
  refine ⟨rfl,rfl,rfl,hcall,?_⟩
  rw [SipRequest.fromTag]
  cases hf : request.fromTagAndUri with
  | error e =>
    rw [hf] at hfrom
    cases hfrom
  | ok p =>
    rw [hf] at hfrom
    cases hfrom
    rfl

def nextLocalSeq (info : DialogInfo) : ℕ := (info.localSeq+1) % 2^32

/-- The record with the new remote sequence number, if that is a step forward. -/
def updateRemoteSeq (info : DialogInfo) (seq : ℕ) : Option DialogInfo :=
  match info.remoteSeq with
  | none => some { info with remoteSeq := some seq }
  | some current => if current < seq then some { info with remoteSeq := some seq } else none

theorem updateRemoteSeq_spec {info info' : DialogInfo} {seq : ℕ}
    (h : info.updateRemoteSeq seq = some info') :
    (∀ current ∈ info.remoteSeq, current < seq) ∧ info' = { info with remoteSeq := some seq } := by
  unfold updateRemoteSeq at h
  split at h
  · rename_i hnone
    exact ⟨by simp [hnone],(Option.some.inj h).symm⟩
  · rename_i current hcurrent
    split_ifs at h with hlt
    exact ⟨by simpa [hcurrent] using hlt,(Option.some.inj h).symm⟩

end DialogInfo

inductive Role where
  | uac
  | uas
deriving DecidableEq

inductive TerminationReason where
  | byeSent
  | byeReceived
  | rejected (code : ℕ)
  | cancelled
  | error (message : Text)

inductive Event where
  | established
  | provisional (response : SipResponse)
  | reInvite (request : SipRequest)
  | byeReceived (request : SipRequest)
  | terminated (reason : TerminationReason)
  | sessionProgress (response : SipResponse)

inductive Action where
  | sendRequest (request : Request)
  | sendResponse (response : SipResponse)
  | event (e : Event)

structure InviteDialog where
  info : DialogInfo
  role : Role
  invite : SipRequest
  ackSent : Bool

namespace InviteDialog

variable {d t : InviteDialog}

def state (d : InviteDialog) : DialogState := d.info.state

def isTerminated (d : InviteDialog) : Bool := d.state == .terminated

def setState (d : InviteDialog) (state : DialogState) : InviteDialog :=
  { d with info := { d.info with state } }

def newUac (invite : SipRequest) : InviteDialog where
  info :=
    { id := ⟨[],[],[]⟩, state := .early, localSeq := (ok invite.cseq).getD 1, remoteSeq := none
      localUri := ((ok invite.fromUri).map display).getD []
      remoteUri := ((ok invite.toUri).map display).getD [], remoteTarget := []
      localContact := (invite.contactUri.map display).getD [], routeSet := ⟨[],false⟩
      secure := false }
  role := .uac
  invite := invite
  ackSent := false

def newUas (invite : SipRequest) (localTag localContact : Text) : Option InviteDialog :=
  (DialogInfo.fromInviteUas invite localTag localContact .early).map (fun info =>
    { info, role := .uas, invite, ackSent := false })

def adopt (d : InviteDialog) (response : SipResponse) (state : DialogState) :
    Option InviteDialog :=
  (DialogInfo.fromInviteResponseUac d.invite response state).map (fun info => { d with info })

theorem adopt_spec {response : SipResponse} {state : DialogState}
    (h : d.adopt response state = some t) : t.state = state ∧
      DialogId.fromResponseUac response = some t.info.id ∧ t.role = d.role ∧
      t.invite = d.invite ∧ ok d.invite.cseq = some t.info.localSeq := by
  obtain ⟨info,hinfo,rfl⟩ := Option.map_eq_some_iff.mp h
  obtain ⟨hstate,hid,hseq⟩ := DialogInfo.fromInviteResponseUac_spec hinfo
  exact ⟨hstate,hid,rfl,rfl,hseq⟩

def handleResponse (d : InviteDialog) (response : SipResponse) : InviteDialog × List Action :=
  if d.role ≠ .uac then (d,[])
  else
    let code := response.statusCode
    match d.state with
    | .early =>
      if 100 ≤ code ∧ code < 200 then
        if code = 100 then (d,[])
        else ((d.adopt response .early).getD d,
          (if code = 183 then [.event (.sessionProgress response)] else [])++
            [.event (.provisional response)])
      else if 200 ≤ code ∧ code < 300 then
        ((d.adopt response .confirmed).getD (d.setState .confirmed),[.event .established])
      else if 300 ≤ code then
        (d.setState .terminated,[.event (.terminated (.rejected code))])
      else (d,[])
    | _ => (d,[])

def handleRequest (d : InviteDialog) (request : SipRequest) : InviteDialog × List Action :=
  match ok request.cseq with
  | none => (d,[])
  | some cseq => match request.method with
    | .bye => (d.setState .terminated,
        [.event (.byeReceived request),.event (.terminated .byeReceived)])
    | .invite =>
      if d.state = .confirmed then match d.info.updateRemoteSeq cseq with
        | some info => ({ d with info },[.event (.reInvite request)])
        | none => (d,[])
      else (d,[])
    | .ack =>
      if d.role = .uas ∧ d.state = .confirmed then ({ d with ackSent := true },[]) else (d,[])
    | .cancel =>
      if d.state = .early ∧ d.role = .uas then
        (d.setState .terminated,[.event (.terminated .cancelled)])
      else (d,[])
    | _ => (d,[])

def sendResponse (d : InviteDialog) (response : SipResponse) : InviteDialog × List Action :=
  if d.role ≠ .uas then (d,[])
  else
    let code := response.statusCode
    if 200 ≤ code ∧ code < 300 ∧ d.state = .early then
      (d.setState .confirmed,[.sendResponse response,.event .established])
    else if 300 ≤ code ∧ d.state = .early then
      (d.setState .terminated,[.sendResponse response,.event (.terminated (.rejected code))])
    else (d,[.sendResponse response])

def branch (uuid : Text) : Text := "z9hG4bK"++uuid

def withContact (info : DialogInfo) (b : SipRequestBuilder) : SipRequestBuilder :=
  if info.localContact.isEmpty then b else b.setContact info.localContact

/-- What every in-dialog request has in common. Both roles write the local
address into `From` and the remote one into `To`. -/
def inDialogBuilder (info : DialogInfo) (method : Method) (cseq : ℕ) (uuid : Text) :
    SipRequestBuilder :=
  let b : SipRequestBuilder := { method := some method }
  let b := b.setUri info.remoteTarget
  let b := b.setVia "0.0.0.0" 5060 "UDP" (branch uuid)
  let b := b.setFrom info.localUri info.id.localTag
  let b := b.setTo info.remoteUri
  let b := { b with toTag := some info.id.remoteTag, callId := some info.id.callId
                    cseq := some cseq, maxForwards := some 70 }
  withContact info (b.setRoute info.routeSet.routes)

theorem withContact_fields (info : DialogInfo) (b : SipRequestBuilder) :
    (withContact info b).method = b.method ∧ (withContact info b).cseq = b.cseq := by
  unfold withContact SipRequestBuilder.setContact
  split_ifs
  · exact ⟨rfl,rfl⟩
  · split <;> exact ⟨rfl,rfl⟩

theorem inDialogBuilder_fields (info : DialogInfo) (method : Method) (cseq : ℕ) (uuid : Text) :
    (inDialogBuilder info method cseq uuid).method = some method ∧
      (inDialogBuilder info method cseq uuid).cseq = some cseq := by
  have hto (b : SipRequestBuilder) (uri : Text) : (b.setTo uri).method = b.method := by
    unfold SipRequestBuilder.setTo
    split <;> rfl
  have hfrom (b : SipRequestBuilder) (uri tag : Text) : (b.setFrom uri tag).method = b.method := by
    unfold SipRequestBuilder.setFrom
    split <;> rfl
  have huri (b : SipRequestBuilder) (uri : Text) : (b.setUri uri).method = b.method := by
    unfold SipRequestBuilder.setUri
    split <;> rfl
  refine ⟨(withContact_fields info _).1.trans ?_,(withContact_fields info _).2.trans rfl⟩
  exact (hto _ _).trans ((hfrom _ _ _).trans (huri _ _))

def extended (b : SipRequestBuilder) (extraHeaders : List (Text × Text)) : SipRequestBuilder :=
  { b with otherHeaders := b.otherHeaders++extraHeaders }

def buildInDialogRequestWith (d : InviteDialog) (method : Method) (cseq : ℕ)
    (extraHeaders : List (Text × Text)) (uuid : Text) : Option Request :=
  ok (extended (inDialogBuilder d.info method cseq uuid) extraHeaders).build

def buildInDialogRequest (d : InviteDialog) (method : Method) (cseq : ℕ) (uuid : Text) :
    Option Request :=
  d.buildInDialogRequestWith method cseq [] uuid

def takeSeq (d : InviteDialog) : InviteDialog :=
  { d with info := { d.info with localSeq := d.info.nextLocalSeq } }

def sendBye (d : InviteDialog) (uuid : Text) : InviteDialog × List Action × Option Request :=
  if d.state ≠ .confirmed then (d,[],none)
  else
    let d := (d.setState .terminating).takeSeq
    match d.buildInDialogRequest .bye d.info.localSeq uuid with
    | some bye => (d,[.sendRequest bye],some bye)
    | none => (d,[],none)

/-- A response without `RSeq` is taken for number 0, one without `CSeq` too. -/
def prackBuilder (info : DialogInfo) (response : SipResponse) (method : Method) (uuid : Text) :
    SipRequestBuilder :=
  { inDialogBuilder info .prack info.localSeq uuid with
    rack := some { rseq := response.rseq.getD 0, cseq := (ok response.cseq).getD 0, method } }

def buildPrack (d : InviteDialog) (response : SipResponse) (uuid : Text) :
    Option (InviteDialog × Request) :=
  (ok response.cseqMethod).bind (fun method =>
    let d := d.takeSeq
    (ok (prackBuilder d.info response method uuid).build).map (fun prack => (d,prack)))

def allowed : List Method := [.invite,.ack,.bye,.cancel,.options,.prack,.update]

def updateBuilder (info : DialogInfo) (sessionExpires : Option ℕ) (uuid : Text) :
    SipRequestBuilder :=
  { inDialogBuilder info .update info.localSeq uuid with
    allow := some allowed
    sessionExpires := sessionExpires.map (fun secs =>
      { deltaSeconds := secs, refresher := some .uac })
    supported := sessionExpires.map (fun _ => ["timer"]) }

def buildUpdate (d : InviteDialog) (sessionExpires : Option ℕ) (uuid : Text) :
    Option (InviteDialog × Request) :=
  let d := d.takeSeq
  (ok (updateBuilder d.info sessionExpires uuid).build).map (fun update => (d,update))

/-- The request is built from a builder with this method and sequence number. -/
def Numbered (method : Method) (cseq : ℕ) (req : Request) : Prop :=
  ∃ b : SipRequestBuilder, b.method = some method ∧ b.cseq = some cseq ∧ ok b.build = some req

theorem buildInDialogRequestWith_numbered {d : InviteDialog} {method : Method} {cseq : ℕ}
    {extra : List (Text × Text)} {uuid : Text} {req : Request}
    (h : d.buildInDialogRequestWith method cseq extra uuid = some req) :
    Numbered method cseq req :=
  have hfields := inDialogBuilder_fields d.info method cseq uuid
  ⟨extended (inDialogBuilder d.info method cseq uuid) extra,hfields.1,hfields.2,h⟩

theorem buildPrack_spec {response : SipResponse} {uuid : Text}
    {req : Request} (h : d.buildPrack response uuid = some (t,req)) :
    t = d.takeSeq ∧ Numbered .prack t.info.localSeq req := by
  obtain ⟨method,-,h⟩ := Option.bind_eq_some_iff.mp h
  obtain ⟨prack,hbuild,h⟩ := Option.map_eq_some_iff.mp h
  obtain ⟨rfl,rfl⟩ := Prod.mk.inj h
  have hfields := inDialogBuilder_fields d.takeSeq.info .prack d.takeSeq.info.localSeq uuid
  exact ⟨rfl,prackBuilder d.takeSeq.info response method uuid,hfields.1,hfields.2,hbuild⟩

theorem buildUpdate_spec {sessionExpires : Option ℕ} {uuid : Text}
    {req : Request} (h : d.buildUpdate sessionExpires uuid = some (t,req)) :
    t = d.takeSeq ∧ Numbered .update t.info.localSeq req := by
  obtain ⟨update,hbuild,h⟩ := Option.map_eq_some_iff.mp h
  obtain ⟨rfl,rfl⟩ := Prod.mk.inj h
  have hfields := inDialogBuilder_fields d.takeSeq.info .update d.takeSeq.info.localSeq uuid
  exact ⟨rfl,updateBuilder d.takeSeq.info sessionExpires uuid,hfields.1,hfields.2,hbuild⟩

def buildByeWithReason (d : InviteDialog) (reason uuid : Text) :
    InviteDialog × List Action × Option Request :=
  if d.state ≠ .confirmed then (d,[],none)
  else
    let cseq := min (d.info.localSeq+1) (2^32-1)
    match d.buildInDialogRequestWith .bye cseq [("Reason",reason)] uuid with
    | some bye =>
      ({ d with info := { d.info with localSeq := cseq, state := .terminating } },
        [.sendRequest bye],some bye)
    | none => (d,[],none)

end InviteDialog

inductive Call where
  | handleResponse (response : SipResponse)
  | handleRequest (request : SipRequest)
  | sendResponse (response : SipResponse)
  | sendBye (uuid : Text)
  | buildPrack (response : SipResponse) (uuid : Text)
  | buildUpdate (sessionExpires : Option ℕ) (uuid : Text)
  | buildByeWithReason (reason uuid : Text)
  | ackSent

/-- What a call leaves behind: pending actions, and the request it returns. -/
inductive Output where
  | action (a : Action)
  | returned (request : Request)

def actionsOnly (p : InviteDialog × List Action) : InviteDialog × List Output :=
  (p.1,p.2.map .action)

def withResult (p : InviteDialog × List Action × Option Request) : InviteDialog × List Output :=
  (p.1,p.2.1.map .action++(p.2.2.map Output.returned).toList)

def step : Step InviteDialog Call Output
  | d, .handleResponse response => some (actionsOnly (d.handleResponse response))
  | d, .handleRequest request => some (actionsOnly (d.handleRequest request))
  | d, .sendResponse response => some (actionsOnly (d.sendResponse response))
  | d, .sendBye uuid => some (withResult (d.sendBye uuid))
  | d, .buildPrack response uuid =>
    (d.buildPrack response uuid).map (fun p => (p.1,[.returned p.2]))
  | d, .buildUpdate sessionExpires uuid =>
    (d.buildUpdate sessionExpires uuid).map (fun p => (p.1,[.returned p.2]))
  | d, .buildByeWithReason reason uuid => some (withResult (d.buildByeWithReason reason uuid))
  | d, .ackSent => some ({ d with ackSent := true },[])

def createInvite (cseq : ℕ) : SipRequest where
  inner :=
    { method := .invite, uri := "sip:bob@example.com", version := "SIP/2.0"
      headers := ⟨[.via "SIP/2.0/UDP 192.168.1.1:5060;branch=z9hG4bKtest",
        .from "<sip:alice@example.com>;tag=fromtag",.to "<sip:bob@example.com>",
        .callId "test@example.com",.cseq (natText cseq++ " INVITE"),
        .maxForwards "70",.contact "<sip:alice@192.168.1.1:5060>",
        .contentLength "0"],by simp [maxHeaders]⟩
      body := [] }
  uri_parses := (createRequest .invite testBranch).uri_parses

/-- A response to it with a given code, or to another request of the caller. -/
def createReply (code cseq : ℕ) (method : Method) : SipResponse where
  inner :=
    { version := "SIP/2.0", statusCode := code, reason := "Test"
      headers := ⟨[.via "SIP/2.0/UDP 192.168.1.1:5060;branch=z9hG4bKtest",
        .from "<sip:alice@example.com>;tag=fromtag",
        .to "<sip:bob@example.com>;tag=totag",.callId "test@example.com",
        .cseq (natText cseq++ ' '::method.asStr),.contact "<sip:bob@192.168.1.2:5060>",
        .contentLength "0"],by simp [maxHeaders]⟩
      body := [] }

def createPeerRequest (method : Method) (cseq : ℕ) : SipRequest where
  inner :=
    { method, uri := "sip:alice@192.168.1.1:5060", version := "SIP/2.0"
      headers := ⟨[.via "SIP/2.0/UDP 192.168.1.2:5060;branch=z9hG4bKpeer",
        .from "<sip:bob@example.com>;tag=totag",
        .to "<sip:alice@example.com>;tag=fromtag",.callId "test@example.com",
        .cseq (natText cseq++ ' '::method.asStr),.maxForwards "70",
        .contentLength "0"],by simp [maxHeaders]⟩
      body := [] }
  uri_parses := by
    change (ok (RsipRtp.Uri.parse "sip:alice@192.168.1.1:5060")).isSome
    decide +kernel

end RsipRtp.Dialog
