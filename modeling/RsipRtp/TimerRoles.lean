import RsipRtp.CallViews

/-!
# The two sides of a session timer

The side that answers an INVITE picks the refresher and tells it in the 200 OK.
Each side then sets one of its two deadlines.
-/

namespace RsipRtp.TimerRoles
open SipText SipHeader SipMessage SessionTimer Sdp FiniteMap CallSession CallTable CallManager

def Echoes (response : SipResponse) (interval : ℕ) (refresher : Refresher) : Prop :=
  findOtherHeader response.inner.headers "Session-Expires" =
    some (SessionExpires.toHeaderValue ⟨asSecs32 interval,some refresher⟩)

/-- One call waits for its refresh and the other one for the expiry. A refresh
after half of an interval comes before the end of it. -/
def Shared (interval : ℕ) (refreshing expiring : Call) : Prop :=
  ∃ refresh expiry, (refreshing.refreshAt = some refresh ∧ refreshing.expiryAt = none) ∧
    (expiring.expiryAt = some expiry ∧ expiring.refreshAt = none) ∧
    (interval ≠ 0 → refresh < expiry)

theorem shared_setTimer (c d : Call) (interval : ℕ) (r r' : Refresher) (now : ℕ) :
    Shared interval (c.setTimer interval r true now) (d.setTimer interval r' false now) :=
  ⟨now+interval/2,now+interval,⟨rfl,rfl⟩,⟨rfl,rfl⟩,by omega⟩

section Handshake
variable {env : Env} {m : CallManager} {request : SipRequest} {response : SipResponse}
  {interval : ℕ} {refresher : Refresher}

theorem evaluate_accept (h : m.evaluateInboundInviteSessionTimer request =
    .accept interval refresher) : asSecs32 interval < 2^32 ∧
      fromSecs (asSecs32 interval) = interval ∧
      refresher = if supportsTimer request then .uac else .uas := by
  unfold evaluateInboundInviteSessionTimer at h
  split at h
  · cases h
  · next se hse =>
    split at h
    · cases h
    · have hlt := sessionExpires_lt hse
      obtain ⟨rfl,rfl⟩ := InboundSessionTimer.accept.inj h
      have hsecs : asSecs32 (fromSecs se.deltaSeconds) = se.deltaSeconds := by
        rw [asSecs32, asSecs, fromSecs, Nat.mul_div_cancel _ (by decide), Nat.mod_eq_of_lt hlt]
      rw [hsecs]
      exact ⟨hlt,rfl,rfl⟩

theorem handleInviteSuccess_timer {id : CallId} {dialog : Dialog} {answer : SessionDescription}
    {now : ℕ} {m' : CallManager} {out : List Output} {se : SessionExpires}
    (hse : sessionExpires response.inner.headers = some se)
    (h : m.handleInviteSuccess env id dialog answer (some response) now = (m',out,true)) :
    ∃ c : Call, m'.calls.lookup id = some (c.setTimer (fromSecs se.deltaSeconds)
      (se.refresher.getD .uac) (se.refresher.getD .uac == .uac) now) := by
  unfold handleInviteSuccess at h
  split at h
  · cases h
  · dsimp only at h
    split at h
    · cases h
    · split at h
      · cases h
      · next c hset =>
        cases h
        refine ⟨c.handleAnswer.1,?_⟩
        change (m.calls.insert id _).lookup id = _
        rw [lookup_insert_eq, if_pos rfl, timerFromAnswer, applyInvite2xxSessionTimer, hse]

/-- The side that was asked sets its timer when it answers and the other one
when the answer arrives: one of them refreshes and the other one waits, as the
first picked it. -/
theorem timers_shared (env : Env) (m u : CallManager) (request : SipRequest) (id k : CallId)
    (c : Call) (dialog : Dialog) (answer : SessionDescription) (response : SipResponse) (now : ℕ)
    (interval : ℕ) (refresher : Refresher) (u' : CallManager) (out : List Output)
    (heval : m.evaluateInboundInviteSessionTimer request = .accept interval refresher)
    (hc : m.calls.lookup id = some c) (hecho : Echoes response interval refresher)
    (happlied : u.handleInviteSuccess env k dialog answer (some response) now = (u',out,true)) :
    ∃ uas uac : Call, (m.acceptSessionTimer id interval refresher now).calls.lookup id = some uas ∧
      u'.calls.lookup k = some uac ∧
      if supportsTimer request then Shared interval uac uas else Shared interval uas uac := by
  obtain ⟨hlt,hsecs,hpick⟩ := evaluate_accept heval
  have hse : sessionExpires response.inner.headers =
      some ⟨asSecs32 interval,some refresher⟩ := by
    rw [sessionExpires, hecho, Option.some_or, Option.bind_some, parseSessionExpires_display hlt]
    rfl
  obtain ⟨d,hd⟩ := handleInviteSuccess_timer hse happlied
  have haccept : (m.acceptSessionTimer id interval refresher now).calls.lookup id =
      some (c.setTimer interval refresher (refresher == .uas) now) := by
    rw [acceptSessionTimer, updateCall, hc]
    exact (lookup_insert_eq ..).trans (if_pos rfl)
  refine ⟨_,_,haccept,hd,?_⟩
  rw [Option.getD_some, hsecs, hpick]
  split_ifs
  · exact shared_setTimer d c interval _ _ now
  · exact shared_setTimer c d interval _ _ now

end Handshake

def timerHeaders (value : Text) : Headers :=
  ⟨[.supported "timer",.other "Session-Expires" value],by simp [maxHeaders]⟩

def timedInvite (value : Text) : SipRequest :=
  let invite := createRequest .invite testBranch
  { invite with inner := { invite.inner with headers := timerHeaders value } }

def timedAnswer (value : Text) : SipResponse :=
  let answer := createResponse .invite testBranch 200
  ⟨{ answer.inner with headers := timerHeaders value }⟩

def asked (minSe : ℕ) : CallManager :=
  CallManager.addCall (.new { createConfig with callConfig := ⟨[.pcmu],minSe⟩ })
    (.newInbound "sip:alice@a.example" (createUas "call-1"))

def asking : CallManager := CallManager.addCall (.new createConfig)
    (.newOutbound "sip:bob@b.example")

def answered (value : Text) : CallManager × List Output × Bool :=
  asking.handleInviteSuccess createEnv 0 (createUac "call-1") speech (some (timedAnswer value)) 0

theorem uac_refreshes : ∃ uas uac : Call,
    ((asked (fromSecs 90)).acceptSessionTimer 0 (fromSecs 1800) .uac 0).calls.lookup 0 = some uas ∧
      (answered "1800;refresher=uac").1.calls.lookup 0 = some uac ∧
      Shared (fromSecs 1800) uac uas :=
  timers_shared createEnv (asked (fromSecs 90)) asking (timedInvite "1800;refresher=uac") 0 0
    (.newInbound "sip:alice@a.example" (createUas "call-1")) (createUac "call-1") speech
    (timedAnswer "1800;refresher=uac") 0 (fromSecs 1800) .uac (answered "1800;refresher=uac").1
    (answered "1800;refresher=uac").2.1 (by decide +kernel) rfl (by unfold Echoes; decide +kernel)
    (Prod.ext rfl (Prod.ext rfl (by decide +kernel)))

/-- The refresher that the INVITE names is not asked for. An interval of no
seconds passes a minimum of none, and its refresh is due when it expires. -/
theorem named_refresher_waits :
    (sessionExpires (timedInvite "1800;refresher=uas").inner.headers = some ⟨1800,some .uas⟩ ∧
      (asked 0).evaluateInboundInviteSessionTimer (timedInvite "1800;refresher=uas") =
        .accept (fromSecs 1800) .uac ∧
      (((asked 0).acceptSessionTimer 0 (fromSecs 1800) .uac 0).calls.lookup 0).map
        Call.refreshAt = some none) ∧
    (asked 0).evaluateInboundInviteSessionTimer (timedInvite "0") = .accept 0 .uac ∧
      (((asked 0).acceptSessionTimer 0 0 .uac 0).calls.lookup 0).map Call.expiryAt =
        ((answered "0;refresher=uac").1.calls.lookup 0).map Call.refreshAt := by
  decide +kernel

end RsipRtp.TimerRoles
