import RsipRtp.SipMessage

/-!
# Timers, identifiers and actions of transactions

A duration is a number of milliseconds: every interval of the transaction
layer is built from T1, T2 and T4 by doubling, scaling, minimum and truncated
subtraction.
-/

namespace RsipRtp.TransactionTimer
open SipText SipHeader SipMessage

structure TimerValues where
  t1 : ℕ
  t2 : ℕ
  t4 : ℕ
deriving DecidableEq

def TimerValues.default : TimerValues := { t1 := 500, t2 := 4000, t4 := 5000 }

namespace TimerValues

def timerA (v : TimerValues) : ℕ := v.t1
def timerB (v : TimerValues) : ℕ := v.t1*64
def timerD (_ : TimerValues) : ℕ := 32000+1000
def timerE (v : TimerValues) : ℕ := v.t1
def timerF (v : TimerValues) : ℕ := v.t1*64
def timerG (v : TimerValues) : ℕ := v.t1
def timerH (v : TimerValues) : ℕ := v.t1*64
def timerI (v : TimerValues) : ℕ := v.t4
def timerJ (v : TimerValues) (reliable : Bool) : ℕ := if reliable then 0 else v.t1*64
def timerK (v : TimerValues) (reliable : Bool) : ℕ := if reliable then 0 else v.t4
def nextRetransmit (v : TimerValues) (current : ℕ) : ℕ := min (current*2) v.t2

end TimerValues

inductive Timer where
  | A | B | C | D | E | F | G | H | I | J | K | N
deriving DecidableEq

/-- What a response must repeat to reach a transaction. A request yields its
own method, a response the method of its `CSeq`. -/
structure TransactionId where
  branch : Text
  method : Method
deriving DecidableEq

namespace TransactionId

def fromRequest (req : SipRequest) : Option TransactionId :=
  (ok req.viaBranch).map (fun branch => { branch, method := req.method })

def fromResponse (resp : SipResponse) : Option TransactionId :=
  (ok resp.viaBranch).bind (fun branch =>
    (ok resp.cseqMethod).map (fun method => { branch, method }))

theorem fromRequest_method {req : SipRequest} {id : TransactionId}
    (h : fromRequest req = some id) : id.method = req.method := by
  obtain ⟨b,_,rfl⟩ := Option.map_eq_some_iff.mp h
  rfl

theorem fromRequest_createRequest (method : Method) :
    fromRequest (createRequest method testBranch) = some ⟨testBranch,method⟩ := by
  have hbranch : ok (createRequest method testBranch).viaBranch = some testBranch := by
    -- the method stands in other headers
    change ok (createRequest .invite testBranch).viaBranch = _
    decide +kernel
  rw [fromRequest, hbranch]
  rfl

example : fromRequest (createRequest .bye "no-cookie") =
    some ⟨"no-cookie",.bye⟩ := by decide +kernel

end TransactionId

/-- What a transaction asks its caller to do. The four kinds of transaction
differ only in the events that they report. -/
inductive TransactionAction (ε : Type) where
  | send (data : Bytes)
  | event (e : ε)
  | setTimer (timer : Timer) (duration : ℕ)
  | cancelTimer (timer : Timer)
deriving DecidableEq

variable {ε : Type}

def events (out : List (TransactionAction ε)) : List ε :=
  out.filterMap fun
    | .event e => some e
    | _ => none

def sends (out : List (TransactionAction ε)) : List Bytes :=
  out.filterMap fun
    | .send data => some data
    | _ => none

@[simp] theorem events_nil : events ([] : List (TransactionAction ε)) = [] := rfl
@[simp] theorem events_event (e : ε) (out : List (TransactionAction ε)) :
    events (.event e::out) = e::events out := rfl
@[simp] theorem events_send (d : Bytes) (out : List (TransactionAction ε)) :
    events (.send d::out) = events out := rfl
@[simp] theorem events_setTimer (t : Timer) (d : ℕ) (out : List (TransactionAction ε)) :
    events (.setTimer t d::out) = events out := rfl
@[simp] theorem events_cancelTimer (t : Timer) (out : List (TransactionAction ε)) :
    events (.cancelTimer t::out) = events out := rfl
@[simp] theorem events_append (a b : List (TransactionAction ε)) :
    events (a++b) = events a++events b := List.filterMap_append

@[simp] theorem sends_nil : sends ([] : List (TransactionAction ε)) = [] := rfl
@[simp] theorem sends_send (d : Bytes) (out : List (TransactionAction ε)) :
    sends (.send d::out) = d::sends out := rfl
@[simp] theorem sends_event (e : ε) (out : List (TransactionAction ε)) :
    sends (.event e::out) = sends out := rfl
@[simp] theorem sends_setTimer (t : Timer) (d : ℕ) (out : List (TransactionAction ε)) :
    sends (.setTimer t d::out) = sends out := rfl
@[simp] theorem sends_cancelTimer (t : Timer) (out : List (TransactionAction ε)) :
    sends (.cancelTimer t::out) = sends out := rfl
@[simp] theorem sends_append (a b : List (TransactionAction ε)) :
    sends (a++b) = sends a++sends b := List.filterMap_append

end RsipRtp.TransactionTimer
