import RsipRtp.OutputMachine
import RsipRtp.TransactionTimer

/-!
# INVITE client transactions

The pending actions of the source are the second component of each handler: a
handler only appends to them and never reads them.
-/

namespace RsipRtp.InviteClient
open SipText Uri SipHeader SipMessage TransactionTimer OutputMachine

inductive State where
  | calling
  | proceeding
  | completed
  | terminated
deriving DecidableEq

inductive Event where
  | provisional (response : SipResponse)
  | success (response : SipResponse)
  | failure (response : SipResponse)
  | timeout
  | transportError
deriving DecidableEq

abbrev Action := TransactionAction Event

structure InviteClientTransaction where
  id : TransactionId
  state : State
  request : SipRequest
  timers : TimerValues
  reliable : Bool
  retransmitInterval : ℕ
deriving DecidableEq

def parseViaOrDefault (viaRaw : Option Text) (branch : Text) : HeaderVia :=
  (viaRaw.bind (fun v => ok (parseHeaderVia v))).getD
    { protocol := "UDP", host := "0.0.0.0", port := 5060, branch,
      received := none, rport := none }

def buildAckForNon2xx (invite : SipRequest) : Option Request := do
  let branch ← ok invite.viaBranch
  let callId ← ok invite.callId
  let (fromTag,fromUri) ← ok invite.fromTagAndUri
  let via := parseViaOrDefault invite.viaHeadersRaw.head? branch
  let toUri ← ok invite.toUri
  let cseq ← ok invite.cseq
  let b : SipRequestBuilder := { method := some .ack }
  let b := b.setUri (display invite.uri)
  let b := b.setVia via.host via.port via.protocol branch
  let b := b.setFrom (display fromUri) fromTag
  let b := b.setTo (display toUri)
  ok { b with callId := some callId, cseq := some cseq }.build

def sendAck (tx : InviteClientTransaction) : List Action :=
  match buildAckForNon2xx tx.request with
  | some ack => [.send ack.toBytes]
  | none => []

def start (request : SipRequest) (reliable : Bool) (id : TransactionId) :
    InviteClientTransaction × List Action :=
  let timers := TimerValues.default
  let tx : InviteClientTransaction :=
    { id, state := .calling, request, timers, reliable, retransmitInterval := timers.timerA }
  (tx,[.send request.toBytes]++
    (if reliable then [] else [.setTimer .A tx.retransmitInterval])++
    [.setTimer .B timers.timerB])

def new (request : SipRequest) (reliable : Bool) : Option (InviteClientTransaction × List Action) :=
  if request.method ≠ .invite then none
  else (TransactionId.fromRequest request).map (start request reliable)

def isTerminated (tx : InviteClientTransaction) : Bool := tx.state == .terminated

def handleTimeout (tx : InviteClientTransaction) (timer : Timer) :
    InviteClientTransaction × List Action :=
  match tx.state, timer with
  | .calling, .A =>
    let interval := tx.timers.nextRetransmit tx.retransmitInterval
    ({ tx with retransmitInterval := interval },
      [.send tx.request.toBytes,.setTimer .A interval])
  | .calling, .B => ({ tx with state := .terminated },[.event .timeout])
  | .proceeding, .B => ({ tx with state := .terminated },[.event .timeout])
  | .completed, .D => ({ tx with state := .terminated },[])
  | _, _ => (tx,[])

/-- A non-2xx final response: the ACK, the event, then Timer D, which a
reliable transport sets to zero and thereby skips. -/
def finalFailure (tx : InviteClientTransaction) (response : SipResponse) :
    InviteClientTransaction × List Action :=
  let timerD := if tx.reliable then 0 else tx.timers.timerD
  let out := sendAck tx++[.event (.failure response)]
  if timerD = 0 then ({ tx with state := .terminated },out)
  else ({ tx with state := .completed },out++[.setTimer .D timerD])

def handleResponse (tx : InviteClientTransaction) (response : SipResponse) :
    InviteClientTransaction × List Action :=
  let code := response.statusCode
  match tx.state with
  | .calling =>
    if 100 ≤ code ∧ code < 200 then
      ({ tx with state := .proceeding },
        (if tx.reliable then [] else [.cancelTimer .A])++[.event (.provisional response)])
    else if 200 ≤ code ∧ code < 300 then
      ({ tx with state := .terminated },
        [.cancelTimer .A,.cancelTimer .B,.event (.success response)])
    else if 300 ≤ code then
      let p := finalFailure tx response
      (p.1,[.cancelTimer .A,.cancelTimer .B]++p.2)
    else (tx,[])
  | .proceeding =>
    if 100 ≤ code ∧ code < 200 then (tx,[.event (.provisional response)])
    else if 200 ≤ code ∧ code < 300 then
      ({ tx with state := .terminated },[.cancelTimer .B,.event (.success response)])
    else if 300 ≤ code then
      let p := finalFailure tx response
      (p.1,[.cancelTimer .B]++p.2)
    else (tx,[])
  | .completed => if 300 ≤ code then (tx,sendAck tx) else (tx,[])
  | .terminated => if 200 ≤ code ∧ code < 300 then (tx,[.event (.success response)]) else (tx,[])

def handleTransportError (tx : InviteClientTransaction) : InviteClientTransaction × List Action :=
  match tx.state with
  | .calling | .proceeding => ({ tx with state := .terminated },[.event .transportError])
  | _ => (tx,[])

inductive Call where
  | handleTimeout (timer : Timer)
  | handleResponse (response : SipResponse)
  | handleTransportError

def apply (tx : InviteClientTransaction) : Call → InviteClientTransaction × List Action
  | .handleTimeout timer => handleTimeout tx timer
  | .handleResponse response => handleResponse tx response
  | .handleTransportError => handleTransportError tx

def step : Step InviteClientTransaction Call Action := total apply

theorem new_eq_some {request : SipRequest} {reliable : Bool}
    {p : InviteClientTransaction × List Action} (h : new request reliable = some p) :
    request.method = .invite ∧ ∃ id, TransactionId.fromRequest request = some id ∧
      p = start request reliable id := by
  unfold new at h
  split_ifs at h with hm
  obtain ⟨id,hid,rfl⟩ := Option.map_eq_some_iff.mp h
  exact ⟨not_not.mp hm,id,hid,rfl⟩

variable (tx : InviteClientTransaction)

theorem handleTimeout_id (timer : Timer) : (handleTimeout tx timer).1.id = tx.id := by
  unfold handleTimeout
  split <;> rfl

theorem handleResponse_id (response : SipResponse) : (handleResponse tx response).1.id = tx.id := by
  have hf : (finalFailure tx response).1.id = tx.id := by
    simp only [finalFailure]
    split <;> rfl
  unfold handleResponse
  split <;> dsimp only <;> split_ifs <;> first | rfl | exact hf

theorem handleTransportError_id : (handleTransportError tx).1.id = tx.id := by
  unfold handleTransportError
  split <;> rfl

end RsipRtp.InviteClient
