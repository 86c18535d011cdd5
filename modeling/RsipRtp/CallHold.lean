import RsipRtp.FiniteMap
import RsipRtp.OutputMachine
import RsipRtp.SipText

/-!
# Holding and resuming calls

A call has a direction of its own and one of its peer, and the reported state
is computed from both. A change of our own takes effect when the peer answers
it.
-/

namespace RsipRtp.CallHold
open SipText FiniteMap OutputMachine

inductive HoldError where
  | callNotFound (callId : Text)
  | invalidState (message : Text)
  | sdpError (message : Text)

inductive MediaDirection where
  | sendRecv
  | sendOnly
  | recvOnly
  | inactive
deriving DecidableEq

def MediaDirection.remoteDirection : MediaDirection → MediaDirection
  | .sendRecv => .sendRecv
  | .sendOnly => .recvOnly
  | .recvOnly => .sendOnly
  | .inactive => .inactive

inductive HoldState where
  | active
  | localHold
  | remoteHold
  | bothHold
deriving DecidableEq

def HoldState.isLocalHold : HoldState → Bool
  | .localHold | .bothHold => true
  | _ => false

structure HoldRequest where
  callId : Text
  direction : MediaDirection
  musicOnHold : Bool

structure HoldResponse where
  callId : Text
  direction : MediaDirection
  state : HoldState

structure CallHoldInfo where
  state : HoldState := .active
  localDirection : MediaDirection := .sendRecv
  remoteDirection : MediaDirection := .sendRecv
  pendingRequest : Option HoldRequest := none

def holding : MediaDirection → Bool
  | .sendOnly | .inactive => true
  | _ => false

def computeHoldState (own peer : MediaDirection) : HoldState :=
  match holding own, holding peer with
  | false, false => .active
  | true, false => .localHold
  | false, true => .remoteHold
  | true, true => .bothHold

structure HoldManager where
  calls : Map Text CallHoldInfo

namespace HoldManager

def new : HoldManager := ⟨∅⟩

def addCall (m : HoldManager) (callId : Text) : HoldManager := ⟨m.calls.insert callId {}⟩

def withCall {α : Type} (m : HoldManager) (callId : Text)
    (f : CallHoldInfo → CallHoldInfo × Except HoldError α) : HoldManager × Except HoldError α :=
  match m.calls.lookup callId with
  | none => (m,.error (.callNotFound callId))
  | some info => (⟨m.calls.insert callId (f info).1⟩,(f info).2)

end HoldManager

namespace CallHoldInfo

def createHoldRequest (callId : Text) (inactive : Bool) (info : CallHoldInfo) :
    CallHoldInfo × Except HoldError MediaDirection :=
  if info.state = .localHold ∨ info.state = .bothHold then
    (info,.error (.invalidState "already on local hold"))
  else
    let direction := if inactive then .inactive else .sendOnly
    ({ info with pendingRequest := some ⟨callId,direction,!inactive⟩ },.ok direction)

def createResumeRequest (callId : Text) (info : CallHoldInfo) :
    CallHoldInfo × Except HoldError MediaDirection :=
  if !info.state.isLocalHold then (info,.error (.invalidState "not on local hold"))
  else ({ info with pendingRequest := some ⟨callId,.sendRecv,false⟩ },.ok .sendRecv)

def handleHoldResponse (callId : Text) (remoteDirection : MediaDirection) (info : CallHoldInfo) :
    CallHoldInfo × Except HoldError HoldResponse :=
  match info.pendingRequest with
  | none => (info,.error (.invalidState "no pending hold request"))
  | some request =>
    let state := computeHoldState request.direction remoteDirection
    ({ state, localDirection := request.direction, remoteDirection, pendingRequest := none },
      .ok ⟨callId,request.direction,state⟩)

def handleRemoteHold (remoteDirection : MediaDirection) (info : CallHoldInfo) :
    CallHoldInfo × Except HoldError HoldState :=
  let localDirection := remoteDirection.remoteDirection
  let state := computeHoldState localDirection remoteDirection
  ({ info with state, localDirection, remoteDirection },.ok state)

end CallHoldInfo

open HoldManager

inductive Action where
  | createHoldRequest (inactive : Bool)
  | createResumeRequest
  | handleHoldResponse (remoteDirection : MediaDirection)
  | handleRemoteHold (remoteDirection : MediaDirection)
  | cancelPending

structure Call where
  callId : Text
  action : Action

inductive Reply where
  | direction (r : Except HoldError MediaDirection)
  | response (r : Except HoldError HoldResponse)
  | state (r : Except HoldError HoldState)

def apply (m : HoldManager) (c : Call) : HoldManager × List Reply :=
  match c.action with
  | .createHoldRequest inactive =>
    let r := m.withCall c.callId (CallHoldInfo.createHoldRequest c.callId inactive)
    (r.1,[.direction r.2])
  | .createResumeRequest =>
    let r := m.withCall c.callId (CallHoldInfo.createResumeRequest c.callId)
    (r.1,[.direction r.2])
  | .handleHoldResponse remoteDirection =>
    let r := m.withCall c.callId (CallHoldInfo.handleHoldResponse c.callId remoteDirection)
    (r.1,[.response r.2])
  | .handleRemoteHold remoteDirection =>
    let r := m.withCall c.callId (CallHoldInfo.handleRemoteHold remoteDirection)
    (r.1,[.state r.2])
  | .cancelPending =>
    let r := m.withCall c.callId (fun info => ({ info with pendingRequest := none },.ok ()))
    (r.1,[])

def step : Step HoldManager Call Reply := total apply

/-- Who holds a call. `pending` is the change that waits for an answer, true
for a hold, and `confirmed` the last one that was answered. -/
structure Sides where
  pending : Option Bool := none
  confirmed : Bool := false
  own : Bool := false
  peer : Bool := false

/-- An answer confirms the change that waits and tells the peer's direction.
A re-INVITE of the peer tells its direction, and that a peer which only
receives, or is inactive, is held by us. -/
def Sides.next (s : Sides) : Action → Sides
  | .createHoldRequest _ => if s.own then s else { s with pending := some true }
  | .createResumeRequest => if s.own then { s with pending := some false } else s
  | .handleHoldResponse remoteDirection => match s.pending with
    | some hold => ⟨none,hold,hold,holding remoteDirection⟩
    | none => s
  | .handleRemoteHold remoteDirection =>
    { s with
      own := remoteDirection = .recvOnly ∨ remoteDirection = .inactive
      peer := remoteDirection = .sendOnly ∨ remoteDirection = .inactive }
  | .cancelPending => { s with pending := none }

section Refinement

def changed (c : Call) (info : CallHoldInfo) : CallHoldInfo :=
  match c.action with
  | .createHoldRequest inactive => (info.createHoldRequest c.callId inactive).1
  | .createResumeRequest => (info.createResumeRequest c.callId).1
  | .handleHoldResponse remoteDirection => (info.handleHoldResponse c.callId remoteDirection).1
  | .handleRemoteHold remoteDirection => (info.handleRemoteHold remoteDirection).1
  | .cancelPending => { info with pendingRequest := none }

variable {m : HoldManager} {id : Text} {info : CallHoldInfo}

end Refinement

end RsipRtp.CallHold
