import RsipRtp.TransactionTimer

/-!
# Non-INVITE server transactions

A retransmitted request is answered with the last response. The final
response starts Timer J, which is zero on a reliable transport.
-/

namespace RsipRtp.NonInviteServer
open SipText SipMessage TransactionTimer

inductive State where
  | trying
  | proceeding
  | completed
  | terminated
deriving DecidableEq

inductive Event where
  | request (request : SipRequest)
  | transportError

abbrev Action := TransactionAction Event

structure NonInviteServerTransaction where
  id : TransactionId
  state : State
  request : SipRequest
  lastResponse : Option Bytes
  timers : TimerValues
  reliable : Bool

def start (request : SipRequest) (reliable : Bool) (id : TransactionId) :
    NonInviteServerTransaction × List Action :=
  ({ id, state := .trying, request, lastResponse := none, timers := TimerValues.default, reliable },
    [.event (.request request)])

def new (request : SipRequest) (reliable : Bool) :
    Option (NonInviteServerTransaction × List Action) :=
  if request.method = .invite then none
  else (TransactionId.fromRequest request).map (start request reliable)

def isTerminated (tx : NonInviteServerTransaction) : Bool := tx.state == .terminated

def handleTimeout (tx : NonInviteServerTransaction) (timer : Timer) :
    NonInviteServerTransaction × List Action :=
  match tx.state, timer with
  | .completed, .J => ({ tx with state := .terminated },[])
  | _, _ => (tx,[])

def handleRequest (tx : NonInviteServerTransaction) (_ : SipRequest) :
    NonInviteServerTransaction × List Action :=
  match tx.state with
  | .trying => (tx,[])
  | .proceeding | .completed => (tx,(tx.lastResponse.map TransactionAction.send).toList)
  | .terminated => (tx,[])

def sendFinal (tx : NonInviteServerTransaction) (response : SipResponse) :
    NonInviteServerTransaction × List Action :=
  let timerJ := tx.timers.timerJ tx.reliable
  let lastResponse := some response.toBytes
  if timerJ = 0 then
    ({ tx with state := .terminated, lastResponse },[.send response.toBytes])
  else ({ tx with state := .completed, lastResponse },
    [.send response.toBytes,.setTimer .J timerJ])

def sendResponse (tx : NonInviteServerTransaction) (response : SipResponse) :
    NonInviteServerTransaction × List Action :=
  let code := response.statusCode
  match tx.state with
  | .trying =>
    if 100 ≤ code ∧ code < 200 then
      ({ tx with state := .proceeding, lastResponse := some response.toBytes },
        [.send response.toBytes])
    else if 200 ≤ code then sendFinal tx response
    else (tx,[])
  | .proceeding =>
    if 100 ≤ code ∧ code < 200 then
      ({ tx with lastResponse := some response.toBytes },[.send response.toBytes])
    else if 200 ≤ code then sendFinal tx response
    else (tx,[])
  | _ => (tx,[])

def handleTransportError (tx : NonInviteServerTransaction) :
    NonInviteServerTransaction × List Action :=
  match tx.state with
  | .trying | .proceeding | .completed =>
      ({ tx with state := .terminated },[.event .transportError])
  | .terminated => (tx,[])

theorem new_eq_some {request : SipRequest} {reliable : Bool}
    {p : NonInviteServerTransaction × List Action} (h : new request reliable = some p) :
    request.method ≠ .invite ∧ ∃ id, TransactionId.fromRequest request = some id ∧
      p = start request reliable id := by
  unfold new at h
  split_ifs at h with hm
  obtain ⟨id,hid,rfl⟩ := Option.map_eq_some_iff.mp h
  exact ⟨hm,id,hid,rfl⟩

variable (tx : NonInviteServerTransaction)

theorem handleTimeout_id (timer : Timer) : (handleTimeout tx timer).1.id = tx.id := by
  unfold handleTimeout
  split <;> rfl

theorem handleRequest_id (request : SipRequest) : (handleRequest tx request).1.id = tx.id := by
  unfold handleRequest
  split <;> rfl

theorem sendResponse_id (response : SipResponse) : (sendResponse tx response).1.id = tx.id := by
  have hf : (sendFinal tx response).1.id = tx.id := by
    simp only [sendFinal]
    split <;> rfl
  unfold sendResponse
  split <;> dsimp only <;> split_ifs <;> first | rfl | exact hf

theorem handleTransportError_id : (handleTransportError tx).1.id = tx.id := by
  unfold handleTransportError
  split <;> rfl

end RsipRtp.NonInviteServer
