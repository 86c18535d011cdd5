import RsipRtp.FiniteMap
import RsipRtp.InviteClient
import RsipRtp.InviteServer
import RsipRtp.NonInviteClient
import RsipRtp.NonInviteServer

/-!
# The transaction manager

Four maps hold the transactions by handle, one for each type. The map from
transaction identifiers to handles is shared by all of them.
-/

namespace RsipRtp.Manager
open SipText SipMessage TransactionTimer OutputMachine FiniteMap
open InviteClient (InviteClientTransaction)
open NonInviteClient (NonInviteClientTransaction)
open InviteServer (InviteServerTransaction FinalSent)
open NonInviteServer (NonInviteServerTransaction)

abbrev Handle := ℕ

inductive TransactionType where
  | inviteClient
  | nonInviteClient
  | inviteServer
  | nonInviteServer
deriving DecidableEq

inductive ManagerEvent where
  | provisional (response : SipResponse)
  | inviteSuccess (response : SipResponse)
  | inviteFailure (response : SipResponse)
  | nonInviteFinalResponse (response : SipResponse)
  | nonInviteProvisional (response : SipResponse)
  | inviteRequest (request : SipRequest)
  | nonInviteRequest (request : SipRequest)
  | ackReceived
  | timeout
  | transportError
  | prackTimeout (rseq : ℕ) (finalSent : FinalSent)

inductive ManagerAction where
  | send (data : Bytes)
  | setTimer (handle : Handle) (timer : Timer) (duration : ℕ)
  | cancelTimer (handle : Handle) (timer : Timer)
  | event (handle : Handle) (e : ManagerEvent)

structure TransactionManager where
  nextHandle : ℕ
  inviteClients : Map Handle InviteClientTransaction
  nonInviteClients : Map Handle NonInviteClientTransaction
  inviteServers : Map Handle InviteServerTransaction
  nonInviteServers : Map Handle NonInviteServerTransaction
  idToHandle : Map TransactionId Handle
  handleToType : Map Handle TransactionType
  reliable : Bool

def new (reliable : Bool) : TransactionManager :=
  { nextHandle := 1, inviteClients := ∅, nonInviteClients := ∅, inviteServers := ∅
    nonInviteServers := ∅, idToHandle := ∅, handleToType := ∅, reliable }

/-- The actions of a transaction under its handle; an event without a
counterpart is left out. -/
def collect {ε : Type} (f : ε → Option ManagerEvent) (handle : Handle)
    (actions : List (TransactionAction ε)) : List ManagerAction :=
  actions.filterMap fun
    | .send data => some (.send data)
    | .setTimer timer duration => some (.setTimer handle timer duration)
    | .cancelTimer timer => some (.cancelTimer handle timer)
    | .event e => (f e).map (.event handle)

def collectInviteClientActions : Handle → List InviteClient.Action → List ManagerAction :=
  collect fun
    | .provisional resp => some (.provisional resp)
    | .success resp => some (.inviteSuccess resp)
    | .failure resp => some (.inviteFailure resp)
    | .timeout => some .timeout
    | .transportError => some .transportError

def collectNonInviteClientActions : Handle → List NonInviteClient.Action → List ManagerAction :=
  collect fun
    | .provisional resp => some (.nonInviteProvisional resp)
    | .finalResponse resp => some (.nonInviteFinalResponse resp)
    | .timeout => some .timeout
    | .transportError => some .transportError

def collectInviteServerActions : Handle → List InviteServer.Action → List ManagerAction :=
  collect fun
    | .request req => some (.inviteRequest req)
    | .ackReceived => some .ackReceived
    | .timeout => some .timeout
    | .transportError => some .transportError
    | .prackTimeout rseq finalSent => some (.prackTimeout rseq finalSent)
    | .prackReceived _ => none

def collectNonInviteServerActions : Handle → List NonInviteServer.Action → List ManagerAction :=
  collect fun
    | .request req => some (.nonInviteRequest req)
    | .transportError => some .transportError

section Dispatch

variable (m : TransactionManager) (handle : Handle)

def onInviteClient
    (f : InviteClientTransaction → InviteClientTransaction × List InviteClient.Action) :
    TransactionManager × List ManagerAction :=
  let p := modifyAt m.inviteClients handle f
  ({ m with inviteClients := p.1 },collectInviteClientActions handle p.2)

def onNonInviteClient
    (f : NonInviteClientTransaction → NonInviteClientTransaction × List NonInviteClient.Action) :
    TransactionManager × List ManagerAction :=
  let p := modifyAt m.nonInviteClients handle f
  ({ m with nonInviteClients := p.1 },collectNonInviteClientActions handle p.2)

def onInviteServer
    (f : InviteServerTransaction → InviteServerTransaction × List InviteServer.Action) :
    TransactionManager × List ManagerAction :=
  let p := modifyAt m.inviteServers handle f
  ({ m with inviteServers := p.1 },collectInviteServerActions handle p.2)

def onNonInviteServer
    (f : NonInviteServerTransaction → NonInviteServerTransaction × List NonInviteServer.Action) :
    TransactionManager × List ManagerAction :=
  let p := modifyAt m.nonInviteServers handle f
  ({ m with nonInviteServers := p.1 },collectNonInviteServerActions handle p.2)

end Dispatch

/-- The counter is a `u64` in the source, which is this number for the first
2^64-1 handles. -/
def allocHandle (m : TransactionManager) : Handle × TransactionManager :=
  (m.nextHandle,{ m with nextHandle := m.nextHandle+1 })

section Insert

variable (m : TransactionManager) (handle : Handle)

def insertInviteClient (p : InviteClientTransaction × List InviteClient.Action) :
    TransactionManager × List ManagerAction :=
  ({ m with inviteClients := m.inviteClients.insert handle p.1
            idToHandle := m.idToHandle.insert p.1.id handle
            handleToType := m.handleToType.insert handle .inviteClient },
    collectInviteClientActions handle p.2)

def insertNonInviteClient (p : NonInviteClientTransaction × List NonInviteClient.Action) :
    TransactionManager × List ManagerAction :=
  ({ m with nonInviteClients := m.nonInviteClients.insert handle p.1
            idToHandle := m.idToHandle.insert p.1.id handle
            handleToType := m.handleToType.insert handle .nonInviteClient },
    collectNonInviteClientActions handle p.2)

def insertInviteServer (p : InviteServerTransaction × List InviteServer.Action) :
    TransactionManager × List ManagerAction :=
  ({ m with inviteServers := m.inviteServers.insert handle p.1
            idToHandle := m.idToHandle.insert p.1.id handle
            handleToType := m.handleToType.insert handle .inviteServer },
    collectInviteServerActions handle p.2)

def insertNonInviteServer (p : NonInviteServerTransaction × List NonInviteServer.Action) :
    TransactionManager × List ManagerAction :=
  ({ m with nonInviteServers := m.nonInviteServers.insert handle p.1
            idToHandle := m.idToHandle.insert p.1.id handle
            handleToType := m.handleToType.insert handle .nonInviteServer },
    collectNonInviteServerActions handle p.2)

end Insert

def createClientTransaction (m : TransactionManager) (request : SipRequest) :
    (TransactionManager × List ManagerAction) × Option Handle :=
  let (handle,m) := allocHandle m
  if request.method = .invite then
    match InviteClient.new request m.reliable with
    | some p => (insertInviteClient m handle p,some handle)
    | none => ((m,[]),none)
  else match NonInviteClient.new request m.reliable with
    | some p => (insertNonInviteClient m handle p,some handle)
    | none => ((m,[]),none)

def createServerTransaction (m : TransactionManager) (request : SipRequest) :
    TransactionManager × List ManagerAction :=
  let (handle,m) := allocHandle m
  if request.method = .invite then
    match InviteServer.new request m.reliable with
    | some p => insertInviteServer m handle p
    | none => (m,[])
  else if request.method = .ack then (m,[])
  else match NonInviteServer.new request m.reliable with
    | some p => insertNonInviteServer m handle p
    | none => (m,[])

/-- The first INVITE server transaction of the dialog, in a given order of
the handles. Handles that the order leaves out come last. -/
def findInviteServer (m : TransactionManager) (order : List Handle) (callId fromTag : Text) :
    Option Handle :=
  (order++m.inviteServers.keys).find? (fun h =>
    (m.inviteServers.lookup h).any (InviteServer.matchesInviteDialog · callId fromTag))

def routePrack (m : TransactionManager) (order : List Handle) (request : SipRequest) :
    TransactionManager × List ManagerAction :=
  match request.rack, ok request.callId, ok request.fromTag with
  | some rack, some callId, some fromTag =>
    match findInviteServer m order callId fromTag with
    | some h => onInviteServer m h (InviteServer.handleEvent · (.prackReceived rack.rseq))
    | none => (m,[])
  | _, _, _ => (m,[])

/-- A request that meets an identifier of the map goes to the transaction
there, if it is a server transaction, and nowhere else. -/
def matchRequest (m : TransactionManager) (request : SipRequest) :
    TransactionManager × List ManagerAction :=
  match (TransactionId.fromRequest request).bind m.idToHandle.lookup with
  | some handle => match m.handleToType.lookup handle with
    | some .inviteServer => onInviteServer m handle (InviteServer.handleRequest · request)
    | some .nonInviteServer => onNonInviteServer m handle (NonInviteServer.handleRequest · request)
    | _ => (m,[])
  | none => createServerTransaction m request

def handleRequest (m : TransactionManager) (order : List Handle) (request : SipRequest) :
    TransactionManager × List ManagerAction :=
  if request.method = .prack then
    let p := routePrack m order request
    let q := matchRequest p.1 request
    (q.1,p.2++q.2)
  else matchRequest m request

def handleResponse (m : TransactionManager) (response : SipResponse) :
    TransactionManager × List ManagerAction :=
  match (TransactionId.fromResponse response).bind m.idToHandle.lookup with
  | some handle => match m.handleToType.lookup handle with
    | some .inviteClient => onInviteClient m handle (InviteClient.handleResponse · response)
    | some .nonInviteClient =>
      onNonInviteClient m handle (NonInviteClient.handleResponse · response)
    | _ => (m,[])
  | none => (m,[])

def handleMessage (m : TransactionManager) (order : List Handle) :
    Message → TransactionManager × List ManagerAction
  | .request request => handleRequest m order request
  | .response response => handleResponse m response

def handleTimeout (m : TransactionManager) (handle : Handle) (timer : Timer) :
    TransactionManager × List ManagerAction :=
  match m.handleToType.lookup handle with
  | some .inviteClient => onInviteClient m handle (InviteClient.handleTimeout · timer)
  | some .nonInviteClient => onNonInviteClient m handle (NonInviteClient.handleTimeout · timer)
  | some .inviteServer => onInviteServer m handle (InviteServer.handleTimeout · timer)
  | some .nonInviteServer => onNonInviteServer m handle (NonInviteServer.handleTimeout · timer)
  | none => (m,[])

def sendResponse (m : TransactionManager) (handle : Handle) (response : SipResponse) :
    TransactionManager × List ManagerAction :=
  match m.handleToType.lookup handle with
  | some .inviteServer => onInviteServer m handle (InviteServer.sendResponse · response)
  | some .nonInviteServer => onNonInviteServer m handle (NonInviteServer.sendResponse · response)
  | _ => (m,[])

def handleTransportError (m : TransactionManager) (handle : Handle) :
    TransactionManager × List ManagerAction :=
  match m.handleToType.lookup handle with
  | some .inviteClient => onInviteClient m handle InviteClient.handleTransportError
  | some .nonInviteClient => onNonInviteClient m handle NonInviteClient.handleTransportError
  | some .inviteServer => onInviteServer m handle InviteServer.handleTransportError
  | some .nonInviteServer => onNonInviteServer m handle NonInviteServer.handleTransportError
  | none => (m,[])

section Cleanup

variable (m : TransactionManager)

def cleanupInviteClients : TransactionManager :=
  let toRemove := select m.inviteClients InviteClient.isTerminated
  { m with inviteClients := eraseAll m.inviteClients (toRemove.map Prod.fst)
           idToHandle := eraseAll m.idToHandle (toRemove.map (·.2.id))
           handleToType := eraseAll m.handleToType (toRemove.map Prod.fst) }

def cleanupNonInviteClients : TransactionManager :=
  let toRemove := select m.nonInviteClients NonInviteClient.isTerminated
  { m with nonInviteClients := eraseAll m.nonInviteClients (toRemove.map Prod.fst)
           idToHandle := eraseAll m.idToHandle (toRemove.map (·.2.id))
           handleToType := eraseAll m.handleToType (toRemove.map Prod.fst) }

def cleanupInviteServers : TransactionManager :=
  let toRemove := select m.inviteServers InviteServer.isTerminated
  { m with inviteServers := eraseAll m.inviteServers (toRemove.map Prod.fst)
           idToHandle := eraseAll m.idToHandle (toRemove.map (·.2.id))
           handleToType := eraseAll m.handleToType (toRemove.map Prod.fst) }

def cleanupNonInviteServers : TransactionManager :=
  let toRemove := select m.nonInviteServers NonInviteServer.isTerminated
  { m with nonInviteServers := eraseAll m.nonInviteServers (toRemove.map Prod.fst)
           idToHandle := eraseAll m.idToHandle (toRemove.map (·.2.id))
           handleToType := eraseAll m.handleToType (toRemove.map Prod.fst) }

def cleanupTerminated : TransactionManager :=
  cleanupNonInviteServers (cleanupInviteServers
    (cleanupNonInviteClients (cleanupInviteClients m)))

end Cleanup

inductive Call where
  | createClientTransaction (request : SipRequest)
  | handleMessage (order : List Handle) (message : Message)
  | handleTimeout (handle : Handle) (timer : Timer)
  | sendResponse (handle : Handle) (response : SipResponse)
  | handleTransportError (handle : Handle)
  | cleanupTerminated

def apply (m : TransactionManager) : Call → TransactionManager × List ManagerAction
  | .createClientTransaction request => (createClientTransaction m request).1
  | .handleMessage order message => handleMessage m order message
  | .handleTimeout handle timer => handleTimeout m handle timer
  | .sendResponse handle response => sendResponse m handle response
  | .handleTransportError handle => handleTransportError m handle
  | .cleanupTerminated => (cleanupTerminated m,[])

def step : Step TransactionManager Call ManagerAction := total apply

end RsipRtp.Manager
