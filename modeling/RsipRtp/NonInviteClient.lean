import RsipRtp.OutputMachine
import RsipRtp.TransactionTimer

/-!
# Non-INVITE client transactions

The request is sent again on Timer E until a final response, Timer F or a
transport error ends the wait.
-/

namespace RsipRtp.NonInviteClient
open SipMessage TransactionTimer OutputMachine

inductive State where
  | trying
  | proceeding
  | completed
  | terminated
deriving DecidableEq

inductive Event where
  | provisional (response : SipResponse)
  | finalResponse (response : SipResponse)
  | timeout
  | transportError

abbrev Action := TransactionAction Event

structure NonInviteClientTransaction where
  id : TransactionId
  state : State
  request : SipRequest
  timers : TimerValues
  reliable : Bool
  retransmitInterval : ℕ

def start (request : SipRequest) (reliable : Bool) (id : TransactionId) :
    NonInviteClientTransaction × List Action :=
  let timers := TimerValues.default
  let tx : NonInviteClientTransaction :=
    { id, state := .trying, request, timers, reliable, retransmitInterval := timers.timerE }
  (tx,[.send request.toBytes]++
    (if reliable then [] else [.setTimer .E tx.retransmitInterval])++
    [.setTimer .F timers.timerF])

def new (request : SipRequest) (reliable : Bool) :
    Option (NonInviteClientTransaction × List Action) :=
  if request.method = .invite then none
  else (TransactionId.fromRequest request).map (start request reliable)

def isTerminated (tx : NonInviteClientTransaction) : Bool := tx.state == .terminated

def handleTimeout (tx : NonInviteClientTransaction) (timer : Timer) :
    NonInviteClientTransaction × List Action :=
  match tx.state, timer with
  | .trying, .E | .proceeding, .E =>
    let interval := tx.timers.nextRetransmit tx.retransmitInterval
    ({ tx with retransmitInterval := interval },
      [.send tx.request.toBytes,.setTimer .E interval])
  | .trying, .F | .proceeding, .F => ({ tx with state := .terminated },[.event .timeout])
  | .completed, .K => ({ tx with state := .terminated },[])
  | _, _ => (tx,[])

def handleFinal (tx : NonInviteClientTransaction) (response : SipResponse) :
    NonInviteClientTransaction × List Action :=
  let timerK := tx.timers.timerK tx.reliable
  let out := (if tx.reliable then [] else [.cancelTimer .E])++
    [.cancelTimer .F,.event (.finalResponse response)]
  if timerK = 0 then ({ tx with state := .terminated },out)
  else ({ tx with state := .completed },out++[.setTimer .K timerK])

def handleResponse (tx : NonInviteClientTransaction) (response : SipResponse) :
    NonInviteClientTransaction × List Action :=
  let code := response.statusCode
  match tx.state with
  | .trying =>
    if 100 ≤ code ∧ code < 200 then
      ({ tx with state := .proceeding },[.event (.provisional response)])
    else if 200 ≤ code then handleFinal tx response
    else (tx,[])
  | .proceeding =>
    if 100 ≤ code ∧ code < 200 then (tx,[.event (.provisional response)])
    else if 200 ≤ code then handleFinal tx response
    else (tx,[])
  | .completed | .terminated => (tx,[])

def handleTransportError (tx : NonInviteClientTransaction) :
    NonInviteClientTransaction × List Action :=
  match tx.state with
  | .trying | .proceeding => ({ tx with state := .terminated },[.event .transportError])
  | _ => (tx,[])

inductive Call where
  | handleTimeout (timer : Timer)
  | handleResponse (response : SipResponse)
  | handleTransportError

def apply (tx : NonInviteClientTransaction) : Call → NonInviteClientTransaction × List Action
  | .handleTimeout timer => handleTimeout tx timer
  | .handleResponse response => handleResponse tx response
  | .handleTransportError => handleTransportError tx

def step : Step NonInviteClientTransaction Call Action := total apply

theorem new_eq_some {request : SipRequest} {reliable : Bool}
    {p : NonInviteClientTransaction × List Action} (h : new request reliable = some p) :
    request.method ≠ .invite ∧ ∃ id, TransactionId.fromRequest request = some id ∧
      p = start request reliable id := by
  unfold new at h
  split_ifs at h with hm
  obtain ⟨id,hid,rfl⟩ := Option.map_eq_some_iff.mp h
  exact ⟨hm,id,hid,rfl⟩

variable (tx : NonInviteClientTransaction)

theorem handleTimeout_id (timer : Timer) : (handleTimeout tx timer).1.id = tx.id := by
  unfold handleTimeout
  split <;> rfl

theorem handleResponse_id (response : SipResponse) : (handleResponse tx response).1.id = tx.id := by
  have hf : (handleFinal tx response).1.id = tx.id := by
    simp only [handleFinal]
    split <;> rfl
  unfold handleResponse
  split <;> dsimp only <;> split_ifs <;> first | rfl | exact hf

theorem handleTransportError_id : (handleTransportError tx).1.id = tx.id := by
  unfold handleTransportError
  split <;> rfl

end RsipRtp.NonInviteClient
