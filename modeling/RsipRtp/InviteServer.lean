import RsipRtp.OutputMachine
import RsipRtp.TransactionTimer

/-!
# INVITE server transactions

Beside the four states of the transaction there is a buffer of reliable
provisional responses that wait for their PRACK. One Timer N serves all of
them.
-/

namespace RsipRtp.InviteServer
open SipText SipHeader SipMessage TransactionTimer OutputMachine

def rel100 : Text := "100rel"

def hasTag (tags : List Text) (tag : Text) : Bool := tags.any (eqIgnoreAsciiCase · tag)

def addTag (tags : List Text) (tag : Text) : List Text :=
  if hasTag tags tag then tags else tags++[tag]

def mergeRequireWith100rel (value : Text) : Text :=
  join ", " (addTag ((ok (parseOptionTags value)).getD []) rel100)

def mergeFirstRequire (extra : List Text) : List Header → List Header
  | [] => []
  | .require value::hs =>
    .require (join ", " (extra.foldl addTag ((ok (parseOptionTags value)).getD [])))::hs
  | h::hs => h::mergeFirstRequire extra hs

theorem mergeFirstRequire_length (extra : List Text) (hs : List Header) :
    (mergeFirstRequire extra hs).length = hs.length := by
  induction hs with
  | nil => rfl
  | cons h hs ih => cases h <;> simp [mergeFirstRequire, ih]

def mergeIntoLastRequire (headers : Headers) (extra : List Text) : Headers where
  inner := (mergeFirstRequire extra headers.inner.reverse).reverse
  bound := by simpa [mergeFirstRequire_length] using headers.bound

def requireValue : Header → Option Text
  | .require value => some value
  | .other key value => if eqIgnoreAsciiCase key "Require" then some value else none
  | _ => none

/-- One header of the response. The flag says that a `Require` line has been
written, into which later ones are merged. -/
def stampHeader (acc : Headers × Bool) (header : Header) : Option (Headers × Bool) :=
  match requireValue header with
  | some value =>
    if acc.2 then match ok (parseOptionTags value) with
      | some extra => some (mergeIntoLastRequire acc.1 extra,true)
      | none => some acc
    else (ok (acc.1.push (.require (mergeRequireWith100rel value)))).map (·,true)
  | none => (ok (acc.1.push header)).map (·,acc.2)

def stampReliableHeaders (response : SipResponse) (rseq : ℕ) : Option Bytes := do
  let (headers,handledRequire) ←
    response.inner.headers.inner.foldlM stampHeader (Headers.empty,false)
  let headers ← if handledRequire then some headers else ok (headers.push (.require rel100))
  let headers ← ok (headers.push (.other "RSeq" (natText rseq)))
  return { response.inner with headers }.toBytes

inductive State where
  | proceeding
  | completed
  | confirmed
  | terminated
deriving DecidableEq

inductive FinalSent where
  | none
  | nonTwoXx
  | twoXx
deriving DecidableEq

inductive Event where
  | request (request : SipRequest)
  | ackReceived
  | prackReceived (rseq : ℕ)
  | prackTimeout (rseq : ℕ) (finalSent : FinalSent)
  | timeout
  | transportError
deriving DecidableEq

abbrev Action := TransactionAction Event

structure ReliableProvisional where
  rseq : ℕ
  bytes : Bytes
  nextFireAfter : ℕ
  nextInterval : ℕ
  elapsed : ℕ
  abandonAt : ℕ
deriving DecidableEq

structure InviteServerTransaction where
  id : TransactionId
  state : State
  request : SipRequest
  lastResponse : Option Bytes
  timers : TimerValues
  reliable : Bool
  retransmitInterval : ℕ
  nextRseq : ℕ
  reliableProvisionals : List ReliableProvisional
  finalSent : FinalSent
deriving DecidableEq

def start (request : SipRequest) (reliable : Bool) (id : TransactionId) :
    InviteServerTransaction × List Action :=
  let timers := TimerValues.default
  ({ id, state := .proceeding, request, lastResponse := none, timers, reliable
     retransmitInterval := timers.timerG, nextRseq := 1, reliableProvisionals := []
     finalSent := .none },[.event (.request request)])

def new (request : SipRequest) (reliable : Bool) : Option (InviteServerTransaction × List Action) :=
  if request.method ≠ .invite then none
  else (TransactionId.fromRequest request).map (start request reliable)

def isTerminated (tx : InviteServerTransaction) : Bool := tx.state == .terminated

def matchesInviteDialog (tx : InviteServerTransaction) (callId fromTag : Text) : Bool :=
  match ok tx.request.callId, ok tx.request.fromTag with
  | some c, some t => c == callId && t == fromTag
  | _, _ => false

def soonest (entries : List ReliableProvisional) : Option ℕ :=
  (entries.map (·.nextFireAfter)).min?

def dueIn (tx : InviteServerTransaction) : ℕ :=
  (soonest tx.reliableProvisionals).getD tx.timers.t1

inductive Fired where
  | waiting
  | abandoned
  | retransmitted
deriving DecidableEq

/-- One entry of the buffer when Timer N fires after `due`. -/
def fireEntry (t2 due : ℕ) (e : ReliableProvisional) : ReliableProvisional × Fired :=
  let left := e.nextFireAfter-due
  let elapsed := e.elapsed+e.nextInterval
  if left ≠ 0 then ({ e with nextFireAfter := left },.waiting)
  else if e.abandonAt ≤ elapsed then ({ e with nextFireAfter := left, elapsed },.abandoned)
  else
    let interval := min (e.nextInterval*2) t2
    ({ e with nextFireAfter := interval, nextInterval := interval, elapsed },.retransmitted)

def rearm (entries : List ReliableProvisional) : List Action :=
  ((soonest entries).map (TransactionAction.setTimer Timer.N)).toList

def fireTimerN (tx : InviteServerTransaction) : InviteServerTransaction × List Action :=
  if tx.reliableProvisionals.isEmpty then (tx,[])
  else
    let fired := tx.reliableProvisionals.map (fireEntry tx.timers.t2 (dueIn tx))
    let resent := (fired.filter (·.2 == .retransmitted)).map (TransactionAction.send ·.1.bytes)
    let toAbandon := (fired.filter (·.2 == .abandoned)).map (·.1.rseq)
    let kept := (fired.map Prod.fst).filter (fun e => !toAbandon.contains e.rseq)
    ({ tx with reliableProvisionals := kept },
      resent++toAbandon.map (fun r => .event (.prackTimeout r tx.finalSent))++rearm kept)

def resendLast (tx : InviteServerTransaction) : List Action :=
  (tx.lastResponse.map TransactionAction.send).toList

def handleTimeout (tx : InviteServerTransaction) (timer : Timer) :
    InviteServerTransaction × List Action :=
  match tx.state, timer with
  | .completed, .G =>
    let interval := tx.timers.nextRetransmit tx.retransmitInterval
    ({ tx with retransmitInterval := interval },
      resendLast tx++[.setTimer .G interval])
  | .completed, .H => ({ tx with state := .terminated },[.event .timeout])
  | .confirmed, .I => ({ tx with state := .terminated },[])
  | _, .N => fireTimerN tx
  | _, _ => (tx,[])

def drainReliableProvisionals (tx : InviteServerTransaction) :
    InviteServerTransaction × List Action :=
  if tx.reliableProvisionals.isEmpty then (tx,[])
  else ({ tx with reliableProvisionals := [] },[.cancelTimer .N])

def handleRequest (tx : InviteServerTransaction) (request : SipRequest) :
    InviteServerTransaction × List Action :=
  match tx.state with
  | .proceeding =>
    if request.method = .invite then (tx,resendLast tx)
    else (tx,[])
  | .completed =>
    if request.method = .invite then (tx,resendLast tx)
    else if request.method = .ack then
      let timerI := if tx.reliable then 0 else tx.timers.timerI
      let out := (if tx.reliable then [] else [.cancelTimer .G])++
        [.cancelTimer .H,.event .ackReceived]
      if timerI = 0 then ({ tx with state := .terminated },out)
      else ({ tx with state := .confirmed },out++[.setTimer .I timerI])
    else (tx,[])
  | .confirmed | .terminated => (tx,[])

def sendResponse (tx : InviteServerTransaction) (response : SipResponse) :
    InviteServerTransaction × List Action :=
  let code := response.statusCode
  match tx.state with
  | .proceeding =>
    if 100 ≤ code ∧ code < 200 then
      ({ tx with lastResponse := some response.toBytes },[.send response.toBytes])
    else if 200 ≤ code ∧ code < 300 then
      let p := drainReliableProvisionals { tx with finalSent := .twoXx }
      ({ p.1 with state := .terminated },p.2++[.send response.toBytes])
    else if 300 ≤ code then
      let p := drainReliableProvisionals { tx with finalSent := .nonTwoXx }
      ({ p.1 with state := .completed, lastResponse := some response.toBytes },
        p.2++[.send response.toBytes]++
          (if tx.reliable then [] else [.setTimer .G tx.retransmitInterval])++
          [.setTimer .H tx.timers.timerH])
    else (tx,[])
  | _ => (tx,[])

def sendProvisionalReliable (tx : InviteServerTransaction) (response : SipResponse) :
    Option (InviteServerTransaction × List Action) :=
  if tx.state ≠ .proceeding then some (tx,[])
  else if tx.nextRseq+1 < 2^32 then
    (stampReliableHeaders response tx.nextRseq).map (fun stamped =>
      let entry : ReliableProvisional :=
        { rseq := tx.nextRseq, bytes := stamped, nextFireAfter := tx.timers.t1
          nextInterval := tx.timers.t1, elapsed := 0, abandonAt := tx.timers.t1*64 }
      ({ tx with nextRseq := tx.nextRseq+1, lastResponse := some stamped
                 reliableProvisionals := tx.reliableProvisionals++[entry] },
        .send stamped::
          (if tx.reliableProvisionals.isEmpty then [.setTimer .N tx.timers.t1] else [])))
  else none

def handlePrackReceived (tx : InviteServerTransaction) (rseq : ℕ) :
    InviteServerTransaction × List Action :=
  let kept := tx.reliableProvisionals.filter (·.rseq != rseq)
  if kept.length = tx.reliableProvisionals.length then (tx,[])
  else if kept.isEmpty then ({ tx with reliableProvisionals := kept },[.cancelTimer .N])
  else ({ tx with reliableProvisionals := kept },
    [.cancelTimer .N,.setTimer .N ((soonest kept).getD tx.timers.t1)])

def handleEvent (tx : InviteServerTransaction) : Event → InviteServerTransaction × List Action
  | .prackReceived rseq => handlePrackReceived tx rseq
  | _ => (tx,[])

def handleTransportError (tx : InviteServerTransaction) : InviteServerTransaction × List Action :=
  match tx.state with
  | .proceeding | .completed => ({ tx with state := .terminated },[.event .transportError])
  | _ => (tx,[])

inductive Call where
  | sendResponse (response : SipResponse)
  | sendProvisionalReliable (response : SipResponse)
  | handleRequest (request : SipRequest)
  | handleEvent (event : Event)
  | handleTimeout (timer : Timer)
  | handleTransportError
deriving DecidableEq

def step : Step InviteServerTransaction Call Action
  | tx, .sendResponse response => some (sendResponse tx response)
  | tx, .sendProvisionalReliable response => sendProvisionalReliable tx response
  | tx, .handleRequest request => some (handleRequest tx request)
  | tx, .handleEvent event => some (handleEvent tx event)
  | tx, .handleTimeout timer => some (handleTimeout tx timer)
  | tx, .handleTransportError => some (handleTransportError tx)

theorem new_eq_some {request : SipRequest} {reliable : Bool}
    {p : InviteServerTransaction × List Action} (h : new request reliable = some p) :
    request.method = .invite ∧ ∃ id, TransactionId.fromRequest request = some id ∧
      p = start request reliable id := by
  unfold new at h
  split_ifs at h with hm
  obtain ⟨id,hid,rfl⟩ := Option.map_eq_some_iff.mp h
  exact ⟨not_not.mp hm,id,hid,rfl⟩

variable (tx : InviteServerTransaction)

theorem handleTimeout_id (timer : Timer) : (handleTimeout tx timer).1.id = tx.id := by
  have hf : (fireTimerN tx).1.id = tx.id := by
    unfold fireTimerN
    split_ifs <;> rfl
  unfold handleTimeout
  split <;> first | rfl | exact hf

theorem handleRequest_id (request : SipRequest) : (handleRequest tx request).1.id = tx.id := by
  simp only [handleRequest]
  split
  · split_ifs <;> rfl
  · split_ifs <;> rfl
  · rfl
  · rfl

theorem sendResponse_id (response : SipResponse) : (sendResponse tx response).1.id = tx.id := by
  have hd (tx : InviteServerTransaction) : (drainReliableProvisionals tx).1.id = tx.id := by
    unfold drainReliableProvisionals
    split_ifs <;> rfl
  unfold sendResponse
  split
  · dsimp only
    split_ifs <;> first | rfl | exact hd _
  · rfl

theorem handleEvent_id (event : Event) : (handleEvent tx event).1.id = tx.id := by
  cases event with
  | prackReceived rseq =>
    simp only [handleEvent, handlePrackReceived]
    split_ifs <;> rfl
  | _ => rfl

theorem handleTransportError_id : (handleTransportError tx).1.id = tx.id := by
  unfold handleTransportError
  split <;> rfl

def pendingEntry (rseq : ℕ) (nextFireAfter nextInterval elapsed : ℕ) :
    ReliableProvisional where
  rseq := rseq
  bytes := (stampReliableHeaders (createResponse .invite testBranch 183) rseq).getD []
  nextFireAfter := nextFireAfter
  nextInterval := nextInterval
  elapsed := elapsed
  abandonAt := 32000

def pendingTx (entries : List ReliableProvisional) : InviteServerTransaction :=
  { (start (createRequest .invite testBranch) false ⟨testBranch,.invite⟩).1 with
    lastResponse := (entries.getLast?).map (·.bytes), nextRseq := entries.length+1
    reliableProvisionals := entries }

theorem new_pendingTx : new (createRequest .invite testBranch) false =
    some (pendingTx [],[.event (.request (createRequest .invite testBranch))]) := by
  rw [new, TransactionId.fromRequest_createRequest]
  rfl

end RsipRtp.InviteServer
