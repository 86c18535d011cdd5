import Mathlib.Data.Finset.Insert
import Mathlib.Data.Finset.Erase
import RsipRtp.BindingCheck
import RsipRtp.OutputMachine

/-!
# The dispatcher of a socket and the checks that wait for it

One loop reads every datagram of a socket. A datagram with the transaction id
of a waiting check goes to that check, whatever else it holds; a Binding
request is answered.
-/

namespace RsipRtp.StunDispatcher
open SipText BigEndian StunMessage StunBinding BindingCheck OutputMachine
open SrtpKdf (Octets)

structure Datagram where
  source : SocketAddr
  data : Bytes

inductive Act
  | forward (txnId : Octets 12) (data : Bytes)
  | send (target : SocketAddr) (response : Bytes)

def txnIdOf (data : Bytes) : Option (Octets 12) := (readOctets 12 (data.drop 8)).map Prod.fst

def cookieOf (data : Bytes) : UInt32 :=
  getU32 (data.getD 4 0) (data.getD 5 0) (data.getD 6 0) (data.getD 7 0)

def bufferSize : ℕ := 1500

section Loop
variable (hmac : Hmac) (localUfrag localPwd : Text)

/-- A round of `stun_dispatcher_loop`, with the transactions that wait. -/
def dispatch (pending : Finset (Octets 12)) (d : Datagram) : Finset (Octets 12) × List Act :=
  -- a datagram that fills the buffer may have been cut
  if bufferSize ≤ d.data.length then (pending,[])
  else
    match txnIdOf d.data with
    | none => (pending,[])
    | some txnId =>
      if txnId ∈ pending then (pending.erase txnId,[.forward txnId d.data])
      else if cookieOf d.data = magicCookie ∧ u16At d.data 0 = bindingRequest then
        match buildBindingResponse hmac d.data txnId d.source localUfrag localPwd with
        | some response => (pending,[.send d.source response])
        | none => (pending,[])
      else (pending,[])

def received (txnId : Octets 12) : Act → Option Bytes
  | .forward id data => if id = txnId then some data else none
  | .send _ _ => none

/-- What the check of a transaction gets of the datagrams that arrive before
its time is up. -/
def awaitResponse (pending : Finset (Octets 12)) (txnId : Octets 12) (arrivals : List Datagram) :
    Option Bytes :=
  (run (total (dispatch hmac localUfrag localPwd)) (insert txnId pending) arrivals).bind
    (fun p => p.2.findSome? (received txnId))

/-- The request of the check and its outcome. `sent` is false when the socket
has no address or refuses the request. -/
def performConnectivityCheck (role : IceRole) (priority : UInt32) (remoteUfrag remotePwd : Text)
    (txnId : Octets 12) (tieBreaker : Octets 8) (sent : Bool) (pending : Finset (Octets 12))
    (arrivals : List Datagram) : Bytes × Bool :=
  (checkRequest hmac role localUfrag remoteUfrag remotePwd priority txnId tieBreaker,
    sent && (awaitResponse hmac localUfrag localPwd pending txnId arrivals).any validResponse)

end Loop

def carriesIntegrity (hmac : Hmac) (pwd : Text) (data : Bytes) : Bool :=
  20+(u16At data 2).toNat ≤ data.length &&
    match findIntegrity data (20+(u16At data 2).toNat) (data.length+1) 20 none with
    | some (_,some (miOffset,miValue)) =>
      (hmac (utf8 pwd) (signedPart data miOffset)).1 == miValue
    | _ => false

def Authentic (hmac : Hmac) (pwd : Text) (data : Bytes) : Prop :=
  u16At data 0 = bindingResponse ∧ carriesIntegrity hmac pwd data = true

/-- The header of a Binding success response without a signature of this
password behind it. -/
def Forged (hmac : Hmac) (pwd : Text) (data : Bytes) : Prop :=
  u16At data 0 = bindingResponse ∧ cookieOf data = magicCookie ∧
    carriesIntegrity hmac pwd data = false

instance (hmac : Hmac) (pwd : Text) (data : Bytes) : Decidable (Authentic hmac pwd data) :=
  inferInstanceAs (Decidable (_ ∧ _))

instance (hmac : Hmac) (pwd : Text) (data : Bytes) : Decidable (Forged hmac pwd data) :=
  inferInstanceAs (Decidable (_ ∧ _))

def matching (txnId : Octets 12) (d : Datagram) : Bool :=
  d.data.length < bufferSize && txnIdOf d.data == some txnId

section Header
variable (msgType msgLen : UInt16) (cookie : UInt32) (txnId : Octets 12) (body : Bytes)

@[simp] theorem u16At_message_type : u16At (message msgType msgLen cookie txnId body) 0 = msgType :=
  u16At_drop List.drop_zero

@[simp] theorem cookieOf_message : cookieOf (message msgType msgLen cookie txnId body) =
    cookie := by
  obtain ⟨t1,t0,htype,-⟩ := putU16_read msgType
  obtain ⟨l1,l0,hlen,-⟩ := putU16_read msgLen
  obtain ⟨c3,c2,c1,c0,hcookie,hget⟩ := putU32_read cookie
  rw [message, htype, hlen, hcookie]
  exact hget

@[simp] theorem txnIdOf_message :
    txnIdOf (message msgType msgLen cookie txnId body) = some txnId := by
  obtain ⟨t1,t0,htype,-⟩ := putU16_read msgType
  obtain ⟨l1,l0,hlen,-⟩ := putU16_read msgLen
  obtain ⟨c3,c2,c1,c0,hcookie,-⟩ := putU32_read cookie
  rw [txnIdOf, message, htype, hlen, hcookie]
  have hdrop : ([t1,t0]++([l1,l0]++([c3,c2,c1,c0]++(txnId.1++body)))).drop 8 =
      txnId.1++body := rfl
  rw [hdrop, readOctets_append]
  rfl

end Header

section Delivery
variable {hmac : Hmac} {localUfrag localPwd : Text} {pending : Finset (Octets 12)}
  {txnId : Octets 12} {d : Datagram}

theorem txnIdOf_eq_some {data : Bytes} (h : txnIdOf data = some txnId) :
    ∃ msgType msgLen cookie body, data = message msgType msgLen cookie txnId body := by
  have hlong : 20 ≤ data.length := by
    by_contra hshort
    have hnone : readOctets 12 (data.drop 8) = none := by
      rw [readOctets, dif_neg (by rw [List.length_drop]; omega)]
    rw [txnIdOf, hnone] at h
    cases h
  obtain ⟨msgType,msgLen,cookie,id,body,rfl⟩ := exists_message hlong
  rw [txnIdOf_message] at h
  cases h
  exact ⟨msgType,msgLen,cookie,body,rfl⟩

theorem dispatch_match (hwaits : txnId ∈ pending) (h : matching txnId d = true) :
    dispatch hmac localUfrag localPwd pending d =
      (pending.erase txnId,[.forward txnId d.data]) := by
  simp only [matching, Bool.and_eq_true, decide_eq_true_eq, beq_iff_eq] at h
  rw [dispatch, if_neg (by omega), h.2]
  simp only [hwaits, if_true]

theorem dispatch_other (hmac : Hmac) (localUfrag localPwd : Text) (hwaits : txnId ∈ pending)
    (h : matching txnId d = false) :
    txnId ∈ (dispatch hmac localUfrag localPwd pending d).1 ∧
    (dispatch hmac localUfrag localPwd pending d).2.findSome? (received txnId) = none := by
  unfold dispatch
  split
  · exact ⟨hwaits,rfl⟩
  · next hfits =>
    split
    · exact ⟨hwaits,rfl⟩
    · next id hid =>
      have hne : id ≠ txnId := by
        rintro rfl
        simp [matching, hid] at h
        omega
      split
      · exact ⟨Finset.mem_erase.mpr ⟨hne.symm,hwaits⟩,by simp [received, hne]⟩
      · split
        · split
          · exact ⟨hwaits,rfl⟩
          · exact ⟨hwaits,rfl⟩
        · exact ⟨hwaits,rfl⟩

theorem awaitResponse_eq (arrivals : List Datagram) :
    awaitResponse hmac localUfrag localPwd pending txnId arrivals =
      (arrivals.find? (matching txnId)).map Datagram.data := by
  unfold awaitResponse
  have hwaits : txnId ∈ insert txnId pending := Finset.mem_insert_self _ _
  generalize insert txnId pending = pending at hwaits
  induction arrivals generalizing pending with
  | nil => rfl
  | cons d arrivals ih =>
    obtain ⟨rest,out,hrun⟩ :=
      run_total (dispatch hmac localUfrag localPwd) (dispatch hmac localUfrag localPwd pending d).1
        arrivals
    have hstep : run (total (dispatch hmac localUfrag localPwd)) pending (d::arrivals) =
        some (rest,(dispatch hmac localUfrag localPwd pending d).2++out) :=
      run_cons.mpr ⟨_,_,out,rfl,hrun,rfl⟩
    rw [hstep, Option.bind_some, List.findSome?_append]
    cases hmatch : matching txnId d with
    | true =>
      rw [dispatch_match hwaits hmatch, List.find?_cons_of_pos hmatch]
      simp [received]
    | false =>
      obtain ⟨hstill,hnothing⟩ := dispatch_other hmac localUfrag localPwd hwaits hmatch
      have hrest := ih _ hstill
      rw [hrun, Option.bind_some] at hrest
      rw [hnothing, Option.none_or, hrest, List.find?_cons_of_neg (by simp [hmatch])]

end Delivery

/-- The datagram that a check gets and accepts is signed with the peer's
password, if and only if the first datagram that arrives with its transaction
id is not forged. -/
theorem check_authentic_iff (hmac : Hmac) (localUfrag localPwd : Text) (role : IceRole)
    (priority : UInt32) (remoteUfrag remotePwd : Text) (txnId : Octets 12) (tieBreaker : Octets 8)
    (sent : Bool) (pending : Finset (Octets 12)) (arrivals : List Datagram) :
    (∀ response ∈ awaitResponse hmac localUfrag localPwd pending txnId arrivals,
      (performConnectivityCheck hmac localUfrag localPwd role priority remoteUfrag remotePwd txnId
        tieBreaker sent pending arrivals).2 = true → Authentic hmac remotePwd response) ↔
    (sent = true → ∀ d ∈ arrivals.find? (matching txnId), ¬Forged hmac remotePwd d.data) := by
  unfold performConnectivityCheck
  dsimp only
  rw [awaitResponse_eq]
  cases hfirst : arrivals.find? (matching txnId) with
  | none => simp
  | some d =>
    have hmatch : matching txnId d = true := List.find?_some hfirst
    simp only [matching, Bool.and_eq_true, beq_iff_eq] at hmatch
    obtain ⟨msgType,msgLen,cookie,body,hdata⟩ := txnIdOf_eq_some hmatch.2
    simp only [Option.map_some, Option.mem_def, Option.some.injEq, forall_eq', Option.any_some,
      hdata, Bool.and_eq_true, validResponse_message_iff, Authentic, Forged, u16At_message_type,
      cookieOf_message]
    cases carriesIntegrity hmac remotePwd (message msgType msgLen cookie txnId body) with
    | true =>
      constructor
      · rintro _ _ ⟨_,_,hbad⟩
        cases hbad
      · rintro _ ⟨_,htype,_⟩
        exact ⟨htype,rfl⟩
    | false =>
      constructor
      · rintro h hsent ⟨htype,hcookie,_⟩
        cases (h ⟨hsent,htype,hcookie⟩).2
      · rintro h ⟨hsent,htype,hcookie⟩
        exact absurd ⟨htype,hcookie,rfl⟩ (h hsent)

def bareSuccess (txnId : Octets 12) : Bytes := message bindingResponse 0 magicCookie txnId []

theorem bareSuccess_accepted : ∃ response,
    awaitResponse (fun _ _ => zeroOctets 20) "l" "lp" ∅ (zeroOctets 12)
      [⟨.v4 (zeroOctets 4) 7,bareSuccess (zeroOctets 12)⟩] = some response ∧
    (performConnectivityCheck (fun _ _ => zeroOctets 20) "l" "lp" .controlling 1
      "r" "rp" (zeroOctets 12) (zeroOctets 8) true ∅
      [⟨.v4 (zeroOctets 4) 7,bareSuccess (zeroOctets 12)⟩]).2 = true ∧
    ¬Authentic (fun _ _ => zeroOctets 20) "rp" response :=
  ⟨bareSuccess (zeroOctets 12),by decide +kernel,by decide +kernel,by decide +kernel⟩

end RsipRtp.StunDispatcher
