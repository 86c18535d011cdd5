import RsipRtp.Dialog
import RsipRtp.FiniteMap

/-!
# The dialog manager

Dialogs are held by handle. A request finds its dialog by Call-ID and both
tags, a response by Call-ID and From tag as long as the INVITE is pending.
-/

namespace RsipRtp.DialogTable
open SipText SipMessage OutputMachine FiniteMap Dialog

abbrev DialogHandle := ℕ

inductive ManagerEvent where
  | incomingInvite (request : SipRequest)
  | established
  | provisional (response : SipResponse)
  | sessionProgress (response : SipResponse)
  | reInvite (request : SipRequest)
  | byeReceived (request : SipRequest)
  | terminated (reason : TerminationReason)

inductive ManagerAction where
  | sendRequest (request : Request)
  | sendResponse (response : SipResponse)
  | event (handle : DialogHandle) (e : ManagerEvent)

structure DialogManager where
  nextHandle : ℕ
  dialogs : Map DialogHandle InviteDialog
  idToHandle : Map DialogId DialogHandle
  pendingUac : Map (Text × Text) DialogHandle
  localContact : Text

def new (localContact : Text) : DialogManager where
  nextHandle := 1
  dialogs := ∅
  idToHandle := ∅
  pendingUac := ∅
  localContact := localContact

def managerEvent : Event → ManagerEvent
  | .established => .established
  | .provisional resp => .provisional resp
  | .sessionProgress resp => .sessionProgress resp
  | .reInvite req => .reInvite req
  | .byeReceived req => .byeReceived req
  | .terminated reason => .terminated reason

def collectDialogActions (handle : DialogHandle) (actions : List Action) : List ManagerAction :=
  actions.map fun
    | .sendRequest req => .sendRequest req
    | .sendResponse resp => .sendResponse resp
    | .event e => .event handle (managerEvent e)

def createDialog (m : DialogManager) (invite : SipRequest) : DialogManager × Option DialogHandle :=
  if invite.method ≠ .invite then (m,none)
  else
    let handle := m.nextHandle
    let m := { m with nextHandle := handle+1 }
    match ok invite.callId, ok invite.fromTag with
    | some callId, some fromTag =>
      ({ m with pendingUac := m.pendingUac.insert (callId,fromTag) handle
                dialogs := m.dialogs.insert handle (InviteDialog.newUac invite) },some handle)
    | _, _ => (m,none)

def createUasDialog (m : DialogManager) (request : SipRequest) (localTag : Text) :
    DialogManager × List ManagerAction × Option DialogHandle :=
  let handle := m.nextHandle
  let m := { m with nextHandle := handle+1 }
  match InviteDialog.newUas request localTag m.localContact with
  | none => (m,[],none)
  | some d =>
    ({ m with dialogs := m.dialogs.insert handle d
              idToHandle := m.idToHandle.insert d.info.id handle },
      [.event handle (.incomingInvite request)],some handle)

/-- The tags of a request are those of the dialog, seen from the other side. -/
def findDialogForRequest (m : DialogManager) (request : SipRequest) : Option DialogHandle := do
  let callId ← ok request.callId
  let fromTag ← ok request.fromTag
  let toTag ← request.toTag
  m.idToHandle.lookup { callId, localTag := toTag, remoteTag := fromTag }

def handleRequest (m : DialogManager) (request : SipRequest) (localTag : Text) :
    DialogManager × List ManagerAction × Option DialogHandle :=
  match findDialogForRequest m request with
  | some handle =>
    let p := modifyAt m.dialogs handle (·.handleRequest request)
    ({ m with dialogs := p.1 },collectDialogActions handle p.2,some handle)
  | none =>
    if request.method = .invite then createUasDialog m request localTag else (m,[],none)

def findDialogForResponse (m : DialogManager) (callId fromTag : Text) (toTag : Option Text) :
    Option DialogHandle :=
  match m.pendingUac.lookup (callId,fromTag) with
  | some handle => some handle
  | none => toTag.bind (fun toTag =>
      m.idToHandle.lookup { callId, localTag := fromTag, remoteTag := toTag })

def confirms (d d' : InviteDialog) : Prop := d.state = .early ∧ d'.state = .confirmed

instance (d d' : InviteDialog) : Decidable (confirms d d') :=
  inferInstanceAs (Decidable (_ ∧ _))

def handleResponse (m : DialogManager) (response : SipResponse) :
    DialogManager × List ManagerAction × Option DialogHandle :=
  match ok response.callId, ok response.fromTag with
  | some callId, some fromTag =>
    match findDialogForResponse m callId fromTag response.toTag with
    | none => (m,[],none)
    | some handle => match m.dialogs.lookup handle with
      | none => (m,[],some handle)
      | some d =>
        let p := d.handleResponse response
        let m := { m with dialogs := m.dialogs.insert handle p.1 }
        let m := if confirms d p.1 then
            { m with idToHandle := m.idToHandle.insert p.1.info.id handle
                     pendingUac := m.pendingUac.erase (callId,fromTag) }
          else m
        (m,collectDialogActions handle p.2,some handle)
  | _, _ => (m,[],none)

def sendResponse (m : DialogManager) (handle : DialogHandle) (response : SipResponse) :
    DialogManager × List ManagerAction :=
  match m.dialogs.lookup handle with
  | none => (m,[])
  | some d =>
    let p := d.sendResponse response
    let m := { m with dialogs := m.dialogs.insert handle p.1 }
    let m := if confirms d p.1 then
        { m with idToHandle := m.idToHandle.insert p.1.info.id handle }
      else m
    (m,collectDialogActions handle p.2)

def sendBye (m : DialogManager) (handle : DialogHandle) (uuid : Text) :
    DialogManager × List ManagerAction × Option Request :=
  match m.dialogs.lookup handle with
  | none => (m,[],none)
  | some d =>
    let p := d.sendBye uuid
    ({ m with dialogs := m.dialogs.insert handle p.1 },collectDialogActions handle p.2.1,p.2.2)

def ackSent (m : DialogManager) (handle : DialogHandle) : DialogManager :=
  match m.dialogs.lookup handle with
  | none => m
  | some d => { m with dialogs := m.dialogs.insert handle { d with ackSent := true } }

def terminatedDialogs (m : DialogManager) : List (DialogHandle × InviteDialog) :=
  select m.dialogs InviteDialog.isTerminated

/-- Terminated dialogs go, and with them what their identifiers lead to. The
pending INVITEs stay. -/
def cleanupTerminated (m : DialogManager) : DialogManager :=
  { m with
    dialogs := eraseAll m.dialogs ((terminatedDialogs m).map Prod.fst)
    idToHandle := eraseAll m.idToHandle ((terminatedDialogs m).map (·.2.info.id)) }

inductive Call where
  | createDialog (invite : SipRequest)
  | handleRequest (request : SipRequest) (localTag : Text)
  | handleResponse (response : SipResponse)
  | sendResponse (handle : DialogHandle) (response : SipResponse)
  | sendBye (handle : DialogHandle) (uuid : Text)
  | ackSent (handle : DialogHandle)
  | cleanupTerminated

def apply (m : DialogManager) : Call → DialogManager × List ManagerAction
  | .createDialog invite => ((createDialog m invite).1,[])
  | .handleRequest request localTag =>
    let p := handleRequest m request localTag
    (p.1,p.2.1)
  | .handleResponse response =>
    let p := handleResponse m response
    (p.1,p.2.1)
  | .sendResponse handle response => sendResponse m handle response
  | .sendBye handle uuid =>
    let p := sendBye m handle uuid
    (p.1,p.2.1)
  | .ackSent handle => (ackSent m handle,[])
  | .cleanupTerminated => (cleanupTerminated m,[])

def step : Step DialogManager Call ManagerAction := total apply

end RsipRtp.DialogTable
