import RsipRtp.DeferredAnswer
import RsipRtp.Dialog
import RsipRtp.SdpText
import RsipRtp.SessionTimer
import RsipRtp.SipBuilder
import RsipRtp.UriText

/-!
# Calls

A call and the light form of a dialog that it carries.
-/

namespace RsipRtp.CallSession
open SipText Uri SipMessage StunMessage Sdp SdpNegotiation SessionTimer SipBuilder
open DeferredAnswer (PendingAnswer sessionCodecBuilds)
open Dialog hiding Call step Event Output

structure Env where
  std : StdText
  opusBuilds : Bool

structure Dialog where
  id : DialogId
  localUri : Text
  remoteUri : Text
  localCseq : ℕ
  role : Role
  routeSet : RouteSet
  remoteTarget : Text
  localContact : Text

def noRoutes : RouteSet := ⟨[],false⟩

def placeholder (info : DialogInfo) : SipRequestBuilder :=
  let b : SipRequestBuilder := { method := some .invite }
  let b := b.setUri info.remoteUri
  let b := b.setVia "0.0.0.0" 5060 "UDP" "z9hG4bKplaceholder"
  let b := b.setFrom info.localUri info.id.localTag
  let b := b.setTo info.remoteUri
  { b with callId := some info.id.callId, cseq := some (max info.localSeq 1) }

/-- There is no dialog if the INVITE cannot be built: the source panics. The
guard keeps the invariant of `InviteDialog`: the URI is the print of a read one. -/
def fromDialogInfo (info : DialogInfo) (role : Role) : Option InviteDialog := do
  let invite ← ok (placeholder info).build
  if h : (ok (parse invite.uri)).isSome then
    return { info, role, invite := ⟨invite,h⟩, ackSent := false }
  else none

def handleUpdate (d : InviteDialog) (request : SipRequest) : Option SipResponse :=
  let b : SipResponseBuilder := {}
  let b := (b.status 200 "OK").fromRequest request
  ok { b with
    allow := some InviteDialog.allowed
    contactUri := ok (parse d.info.localContact)
    sessionExpires := sessionExpires request.inner.headers }.build

namespace Dialog

def newUac (callId fromTag toTag localUri remoteUri : Text) (cseq : ℕ) : Dialog :=
  { id := ⟨callId,fromTag,toTag⟩, localUri, remoteUri, localCseq := cseq, role := .uac
    routeSet := noRoutes, remoteTarget := [], localContact := [] }

def newUas (callId fromTag toTag localUri remoteUri : Text) (cseq : ℕ) : Dialog :=
  { id := ⟨callId,toTag,fromTag⟩, localUri, remoteUri, localCseq := cseq, role := .uas
    routeSet := noRoutes, remoteTarget := [], localContact := [] }

def nextCseq (d : Dialog) : Dialog := { d with localCseq := (d.localCseq+1) % 2^32 }

def setRemoteTarget (d : Dialog) (target : Text) : Dialog := { d with remoteTarget := target }

def setRouteSetFromRecordRoutes (d : Dialog) (values : List Text) (reverse : Bool) : Dialog :=
  { d with routeSet := .fromRecordRouteValues values reverse }

/-- The routes and the target of a message, each kept if the message has none. -/
def route (d : Dialog) (recordRoutes : List Text) (contact : Option SipUri) (reverse : Bool) :
    Dialog :=
  let d := if recordRoutes.isEmpty then d else d.setRouteSetFromRecordRoutes recordRoutes reverse
  match contact with
  | some u => d.setRemoteTarget (display u)
  | none => d

def populateUasFromInvite (d : Dialog) (invite : SipRequest) (localContact : Text) : Dialog :=
  if d.role ≠ .uas then d
  else { d.route invite.recordRoutes invite.contactUri false with localContact }

def populateUacFromResponse (d : Dialog) (response : SipResponse) (localContact : Text) : Dialog :=
  if d.role ≠ .uac then d
  else
    let d := d.route response.recordRoutes response.contactUri true
    if localContact.isEmpty then d else { d with localContact }

def toInfo (d : Dialog) : DialogInfo where
  id := d.id
  state := .confirmed
  localSeq := d.localCseq
  remoteSeq := none
  localUri := d.localUri
  remoteUri := d.remoteUri
  remoteTarget := if d.remoteTarget.isEmpty then d.remoteUri else d.remoteTarget
  localContact := d.localContact
  routeSet := d.routeSet
  secure := false

def toInviteDialog (d : Dialog) : Option InviteDialog := fromDialogInfo d.toInfo d.role

@[simp] theorem nextCseq_id (d : Dialog) : d.nextCseq.id = d.id := rfl

@[simp] theorem route_id (d : Dialog) (recordRoutes : List Text) (contact : Option SipUri)
    (reverse : Bool) : (d.route recordRoutes contact reverse).id = d.id := by
  unfold route setRouteSetFromRecordRoutes setRemoteTarget
  cases contact <;> split_ifs <;> rfl

@[simp] theorem populateUasFromInvite_id (d : Dialog) (invite : SipRequest) (contact : Text) :
    (d.populateUasFromInvite invite contact).id = d.id := by
  unfold populateUasFromInvite
  split_ifs
  · rfl
  · exact route_id d _ _ _

@[simp] theorem populateUacFromResponse_id (d : Dialog) (response : SipResponse) (contact : Text) :
    (d.populateUacFromResponse response contact).id = d.id := by
  unfold populateUacFromResponse
  dsimp only
  split_ifs
  · rfl
  · exact route_id d _ _ _
  · exact route_id d _ _ _

end Dialog

inductive CallState where
  | idle
  | inviting
  | ringing
  | earlyMedia
  | established
  | terminating
  | terminated
deriving DecidableEq

inductive CallDirection where
  | outbound
  | inbound
deriving DecidableEq

inductive CallEndReason where
  | normalClearing
  | rejected
  | busy
  | noAnswer
  | networkError
  | canceled
  | error
deriving DecidableEq

inductive CallEvent where
  | stateChanged (state : CallState)
  | ringing
  | earlyMedia
  | answered
  | ended (reason : CallEndReason)

structure MediaSession where
  codec : Codec
  remoteAddr : Option (IpAddr × UInt16)
  localPort : UInt16
  active : Bool

structure Call where
  state : CallState
  direction : CallDirection
  remoteUri : Text
  dialog : Option Dialog := none
  negotiatedMedia : Option NegotiatedMedia := none
  media : Option MediaSession := none
  pendingAnswer : Option PendingAnswer := none
  sessionExpires : Option ℕ := none
  refresher : Option Refresher := none
  refreshAt : Option ℕ := none
  expiryAt : Option ℕ := none
  updateUnsupported : Bool := false
  uacInFlight : Bool := false

def MediaSession.forNegotiated (env : Env) (codec : Codec) (localPort : UInt16) :
    Option MediaSession :=
  if sessionCodecBuilds env.std env.opusBuilds codec then
    some { codec, remoteAddr := none, localPort, active := false }
  else none

def MediaSession.setRemote (s : MediaSession) (addr : IpAddr × UInt16) : MediaSession :=
  { s with remoteAddr := some addr, active := true }

namespace Call

def newOutbound (remoteUri : Text) : Call := { state := .idle, direction := .outbound, remoteUri }

def newInbound (remoteUri : Text) (dialog : Dialog) : Call :=
  { state := .ringing, direction := .inbound, remoteUri, dialog := some dialog }

def newInboundPending (remoteUri : Text) (dialog : Dialog) (pending : PendingAnswer) : Call :=
  { newInbound remoteUri dialog with pendingAnswer := some pending }

def dialogId (c : Call) : Option DialogId := c.dialog.map Dialog.id

def setDialog (c : Call) (dialog : Dialog) : Call := { c with dialog := some dialog }

def mapDialog (c : Call) (f : Dialog → Dialog) : Call := { c with dialog := c.dialog.map f }

def setNegotiatedMedia (env : Env) (c : Call) (media : NegotiatedMedia) (localPort : UInt16) :
    Option Call :=
  (MediaSession.forNegotiated env media.codec localPort).map (fun session =>
    let session := match media.remoteAddr.bind env.std.parseIp with
      | some ip => session.setRemote (ip,media.remotePort)
      | none => session
    { c with negotiatedMedia := some media, media := some session })

def setState (c : Call) (state : CallState) : Call × List CallEvent :=
  if c.state ≠ state then ({ c with state },[.stateChanged state]) else (c,[])

def handleProvisional (c : Call) (hasSdp : Bool) : Call × List CallEvent :=
  if hasSdp then
    let r := c.setState .earlyMedia
    (r.1,r.2++[.earlyMedia])
  else
    let r := c.setState .ringing
    (r.1,r.2++[.ringing])

def handleAnswer (c : Call) : Call × List CallEvent :=
  let r := c.setState .established
  (r.1,r.2++[.answered])

def handleEnded (c : Call) (reason : CallEndReason) : Call × List CallEvent :=
  let r := c.setState .terminated
  ({ r.1 with media := r.1.media.map (fun s => { s with active := false }) },r.2++[.ended reason])

def isActive (c : Call) : Bool := c.state == .established

def slideDeadlines (c : Call) (now : ℕ) : Call :=
  match c.sessionExpires with
  | none => c
  | some se =>
    { c with
      refreshAt := c.refreshAt.map (fun _ => now+se/2)
      expiryAt := c.expiryAt.map (fun _ => now+se) }

def setTimer (c : Call) (sessionExpires : ℕ) (refresher : Refresher) (weRefresh : Bool)
    (now : ℕ) : Call :=
  { c with
    sessionExpires := some sessionExpires
    refresher := some refresher
    refreshAt := if weRefresh then some (now+sessionExpires/2) else none
    expiryAt := if weRefresh then none else some (now+sessionExpires) }

theorem setState_fst (c : Call) (state : CallState) :
    (c.setState state).1 = { c with state } := by
  unfold setState
  split_ifs with h
  · rfl
  · rw [← not_not.mp h]

end Call

end RsipRtp.CallSession
