import RsipRtp.RegistrationLife

/-!
# The loop that drives a registration

The driver sends a request and hands each datagram that arrives to the manager
until one of them ends the exchange.
-/

namespace RsipRtp.RegistrationDriver
open SipText Sdp Digest SipMessage SipBuilderRead Registration
open RegistrationCount RegistrationLife
open SipFraming (parseSipMessage)

structure Incoming where
  data : Bytes
  now : ℕ
  fresh : Fresh

structure Driven where
  manager : RegistrationManager
  sent : List Sent
  left : List Incoming
  result : Except RegistrationError Unit

section Driver
variable (std : StdText) (hash : HashFns)

/-- The loop of `run_request`. -/
def receive (m : RegistrationManager) (authAttempts : ℕ) (sent : List Sent) :
    List Incoming → Driven
  | [] => ⟨m,sent,[],.error .timeout⟩
  | d::ds => match parseSipMessage d.data with
    | .error e => ⟨m,sent,ds,.error (.malformed e.display)⟩
    | .ok (.request _) => ⟨m,sent,ds,.error (.malformed "expected response")⟩
    | .ok (.response response) =>
      let p := handleResponse std hash m d.now response d.fresh
      match p.2 with
      | .error e => ⟨p.1,sent,ds,.error e⟩
      | .ok none =>
        if 200 ≤ response.statusCode then ⟨p.1,sent,ds,.ok ()⟩
        else receive p.1 authAttempts sent ds
      | .ok (some retry) =>
        if 1 < authAttempts+1 then ⟨p.1,sent,ds,.error .authRejected⟩
        else receive p.1 (authAttempts+1) (sent++[retry]) ds

def runRequest (p : RegistrationManager × Except RegistrationError Sent) (ds : List Incoming) :
    Driven :=
  match p.2 with
  | .error e => ⟨p.1,[],ds,.error e⟩
  | .ok initial => receive std hash p.1 0 [initial] ds

def register (m : RegistrationManager) (fresh : Fresh) (ds : List Incoming) : Driven :=
  runRequest std hash (createRegister m fresh) ds

def unregister (m : RegistrationManager) (fresh : Fresh) (ds : List Incoming) : Driven :=
  runRequest std hash (createUnregister hash m fresh) ds

end Driver

/-! ## The response that decides -/

instance (challenge : DigestChallenge) : Decidable (Filled challenge) :=
  inferInstanceAs (Decidable (_ ∧ _))

/-- The first response from 200 to 399, after provisional ones and at most one
challenge that can be answered, and whether there was a challenge. -/
def deciding (std : StdText) : Bool → List Incoming → Option (Bool × SipResponse)
  | _, [] => none
  | retried, d::ds => match parseSipMessage d.data with
    | .ok (.response response) =>
      if response.statusCode < 200 then deciding std retried ds
      else if response.statusCode < 400 then some (retried,response)
      else match challengeOf std response with
        | some challenge =>
          if Filled challenge ∧ retried = false then deciding std true ds else none
        | none => none
    | _ => none

/-- The driver reports success only in the given state, after a 200 to the
request sent last. -/
def Sound (state : RegistrationState) (ds : List Incoming) (o : Driven) : Prop :=
  o.result = .ok () → o.manager.state = state ∧
    ∃ used d response s, ds = used++d::o.left ∧
      parseSipMessage d.data = .ok (.response response) ∧ response.statusCode = 200 ∧
      o.sent.getLast? = some s ∧
      ok response.callId = valueOf s.request.headers "Call-ID" ∧
      ok response.cseq = number s

section Loop
variable {std : StdText} {hash : HashFns}
variable {p : RegistrationManager × Except RegistrationError Sent} {m : RegistrationManager}
variable {response : SipResponse}

structure Latest (m : RegistrationManager) (sent : List Sent) (s : Sent) : Prop where
  last : sent.getLast? = some s
  callId : valueOf s.request.headers "Call-ID" = some m.callId
  number : number s = some m.cseq.toNat

def answeredNumber (m : RegistrationManager) (again : Bool) : ℕ :=
  (if again then m.cseq+1 else m.cseq).toNat

structure Decided (m : RegistrationManager) (again : Bool) (response : SipResponse)
    (ds : List Incoming) (o : Driven) : Prop where
  result : o.result = .ok ()
  state : o.manager.state = if response.statusCode = 200 then
    (if m.state = .unregistering then .unregistered else .registered) else m.state
  used : ∃ used d, ds = used++d::o.left ∧ parseSipMessage d.data = .ok (.response response)
  sent : ∃ s, o.sent.getLast? = some s ∧
    valueOf s.request.headers "Call-ID" = some m.callId ∧
    number s = some (answeredNumber m again)

theorem Decided.skip {again : Bool}
    {ds : List Incoming} {o : Driven} (h : Decided m again response ds o) (d : Incoming) :
    Decided m again response (d::ds) o := by
  obtain ⟨used,e,hds,he⟩ := h.used
  exact ⟨h.result,h.state,⟨d::used,e,by rw [hds]; rfl,he⟩,h.sent⟩

theorem handleResponse_challenge (std : StdText) (hash : HashFns)
    (hb : Buildable m.config) (h400 : 400 ≤ response.statusCode) (now : ℕ) (fresh : Fresh) :
    (∃ challenge s, challengeOf std response = some challenge ∧ Filled challenge ∧
      handleResponse std hash m now response fresh =
        (counted { m with lastChallenge := some challenge },.ok (some s)) ∧
      Latest (counted { m with lastChallenge := some challenge }) [s] s) ∨
    (∀ challenge, challengeOf std response = some challenge → ¬Filled challenge) ∧
      ∃ e, (handleResponse std hash m now response fresh).2 = .error e := by
  have he := handleResponse_effect std hash m now response fresh
  have hne := handleResponse_refused std hash m h400 now fresh
  generalize handleResponse std hash m now response fresh = p at he hne ⊢
  obtain ⟨next,result⟩ := p
  have herror : (result.toOption.bind id).toList = [] → ∃ e, result = .error e := by
    intro hempty
    match result with
    | .error e => exact ⟨e,rfl⟩
    | .ok none => exact absurd rfl hne
    | .ok (some s) => cases hempty
  dsimp only at he ⊢
  generalize hout : (result.toOption.bind id).toList = out at he
  cases he with
  | challenged _ _ _ challenge _ brought _ hnext answered =>
    cases answered with
    | none empty =>
      refine .inr ⟨fun c hc hfilled => ?_,herror hout⟩
      rw [brought] at hc
      cases hc
      rcases empty with empty | empty
      · exact hfilled.1 empty
      · exact hfilled.2 empty
    | sent r _ filled credentials produced =>
      cases produced with
      | none build => exact absurd (by rw [hnext]; exact hb) build
      | sent s build written =>
        refine .inl ⟨challenge,s,brought,filled,?_,?_⟩
        · rw [hnext]
          match result with
          | .error e => cases hout
          | .ok none => cases hout
          | .ok (some t) =>
            cases hout
            rfl
        · rw [← hnext]
          exact ⟨rfl,written.callId,by rw [RegistrationCount.number, written.cseq]; rfl⟩
  | removed _ _ _ success _ => omega
  | bound _ _ _ success _ => omega
  | quiet _ _ _ _ _ unchallenged _ =>
    refine .inr ⟨fun c hc => ?_,herror hout⟩
    rw [unchallenged] at hc
    cases hc

theorem deciding_retried {ds : List Incoming} {again : Bool}
    (h : deciding std true ds = some (again,response)) : again = true := by
  induction ds with
  | nil => cases h
  | cons d ds ih =>
    rw [deciding] at h
    split at h
    · split_ifs at h
      · exact ih h
      · cases h
        rfl
      · split at h
        · simp at h
        · cases h
    · cases h

theorem receive_decided (std : StdText) (hash : HashFns)
    (retried : Bool) {sent : List Sent} {s : Sent} (hb : Buildable m.config)
      (hlast : Latest m sent s) (ds : List Incoming) :
    match deciding std retried ds with
    | some (retried',response) => Decided m (retried' && !retried) response ds
        (receive std hash m retried.toNat sent ds)
    | none => (receive std hash m retried.toNat sent ds).result ≠ .ok () := by
  induction ds generalizing m retried sent s with
  | nil => simp [deciding, receive]
  | cons d ds ih =>
    rw [deciding, receive]
    match hparse : parseSipMessage d.data with
    | .error e => simp
    | .ok (.request r) => simp
    | .ok (.response response) =>
      dsimp only
      by_cases h200 : response.statusCode < 200
      · rw [if_pos h200, handleResponse_other (by omega) (by omega)]
        dsimp only
        rw [if_neg (by omega)]
        have hrest := ih retried hb hlast
        split at hrest
        · exact hrest.skip d
        · exact hrest
      rw [if_neg h200]
      by_cases h400 : response.statusCode < 400
      · rw [if_pos h400]
        dsimp only
        have hsent : ∃ t, sent.getLast? = some t ∧
            valueOf t.request.headers "Call-ID" = some m.callId ∧
            number t = some (answeredNumber m (retried && !retried)) :=
          ⟨s,hlast.last,hlast.callId,by rw [Bool.and_not_self]; exact hlast.number⟩
        by_cases hok : response.statusCode = 200
        · obtain ⟨hnone,hstate⟩ := handleResponse_success std hash m hok d.now d.fresh
          rw [hnone]
          dsimp only
          rw [if_pos (by omega)]
          exact ⟨rfl,by rw [if_pos hok]; exact hstate,⟨[],d,rfl,hparse⟩,hsent⟩
        · rw [handleResponse_other hok h400]
          dsimp only
          rw [if_pos (by omega)]
          exact ⟨rfl,by rw [if_neg hok],⟨[],d,rfl,hparse⟩,hsent⟩
      · rw [if_neg h400]
        rcases handleResponse_challenge std hash hb (Nat.le_of_not_lt h400)
          d.now d.fresh with ⟨challenge,t,hch,hfilled,hhandled,hlatest⟩ | ⟨hempty,e,herror⟩
        · rw [hhandled, hch]
          dsimp only
          cases retried with
          | true => simp
          | false =>
            rw [if_pos ⟨hfilled,rfl⟩, if_neg (by simp)]
            have hlatest' : Latest (counted { m with lastChallenge := some challenge })
                (sent++[t]) t := ⟨by simp,hlatest.callId,hlatest.number⟩
            have hrest :=
                ih true (m := counted { m with lastChallenge := some challenge }) hb hlatest'
            cases hdec : deciding std true ds with
            | none =>
              rw [hdec] at hrest
              exact hrest
            | some p =>
              rw [hdec] at hrest
              obtain ⟨again,final⟩ := p
              cases deciding_retried hdec
              have hskip := hrest.skip d
              exact ⟨hskip.result,hskip.state,hskip.used,hskip.sent⟩
        · rw [herror]
          dsimp only
          cases hch : challengeOf std response with
          | none => simp
          | some challenge => simp [hempty challenge hch]

/-- The response that decides is a 200 to the request sent last, the first one
or the answer to a challenge. -/
def Matching (std : StdText) (callId : Text) (cseq : UInt32) (ds : List Incoming) : Prop :=
  ∀ again response, deciding std false ds = some (again,response) →
    response.statusCode = 200 ∧ ok response.callId = some callId ∧
    ok response.cseq = some (if again then cseq+1 else cseq).toNat

def Started (p : RegistrationManager × Except RegistrationError Sent) : Prop :=
  ∀ s, p.2 = .ok s → Buildable p.1.config ∧ Latest p.1 [s] s

theorem Decided.unique {again : Bool} {response other : SipResponse}
    {ds used : List Incoming} {d : Incoming} {o : Driven} (h : Decided m again response ds o)
    (hds : ds = used++d::o.left) (hparse : parseSipMessage d.data = .ok (.response other)) :
    other = response := by
  obtain ⟨used',e,hds',hparse'⟩ := h.used
  have htails := (List.append_inj' (hds.symm.trans hds') (by simp)).2
  rw [(List.cons.inj htails).1, hparse'] at hparse
  cases hparse
  rfl

theorem runRequest_sound_iff (std : StdText) (hash : HashFns)
    (hp : Started p) (ds : List Incoming) :
    Sound (if p.1.state = .unregistering then .unregistered else .registered) ds
      (runRequest std hash p ds) ↔
    ((∃ s, p.2 = .ok s) → Matching std p.1.callId p.1.cseq ds) := by
  obtain ⟨m,result⟩ := p
  cases result with
  | error e => simp [runRequest, Sound]
  | ok s =>
    obtain ⟨hb,hlatest⟩ := hp s rfl
    have hdecided := receive_decided std hash false hb hlatest ds
    change Sound _ ds (receive std hash m 0 [s] ds) ↔ _
    constructor
    · intro h _ again response hdec
      rw [hdec] at hdecided
      obtain ⟨_,used,d,other,t,hds,hparse,h200,hlast,hid,hnumber⟩ := h hdecided.result
      cases hdecided.unique hds hparse
      obtain ⟨t',hlast',hid',hnumber'⟩ := hdecided.sent
      rw [show (receive std hash m 0 [s] ds).sent.getLast? = some t' from hlast'] at hlast
      cases hlast
      rw [Bool.not_false, Bool.and_true] at hnumber'
      exact ⟨h200,hid.trans hid',hnumber.trans hnumber'⟩
    · intro h hok
      cases hdec : deciding std false ds with
      | none =>
        rw [hdec] at hdecided
        exact absurd hok hdecided
      | some q =>
        rw [hdec] at hdecided
        obtain ⟨again,response⟩ := q
        obtain ⟨h200,hid,hnumber⟩ := h ⟨s,rfl⟩ again response hdec
        obtain ⟨used,d,hds,hparse⟩ := hdecided.used
        obtain ⟨t,hlast,hid',hnumber'⟩ := hdecided.sent
        rw [Bool.not_false, Bool.and_true] at hnumber'
        refine ⟨?_,used,d,response,t,hds,hparse,h200,hlast,hid.trans hid'.symm,
          hnumber.trans hnumber'.symm⟩
        exact hdecided.state.trans (if_pos h200)

theorem started_of_produced
    {expires : UInt32} {credentials : Option DigestResponse}
    (h : Produced p.1 expires credentials p.2.toOption.toList) :
    Started p ∧ ((∃ s, p.2 = .ok s) ↔ Buildable p.1.config) := by
  obtain ⟨m,result⟩ := p
  cases result with
  | error e =>
    cases h with
    | none build =>
      exact ⟨fun s hs => (nomatch hs),fun ⟨s,hs⟩ => (nomatch hs),fun hb => absurd hb build⟩
  | ok s =>
    cases h with
    | sent t build written =>
      refine ⟨fun t ht => ?_,⟨fun _ => build,fun _ => ⟨s,rfl⟩⟩⟩
      cases ht
      exact ⟨build,rfl,written.callId,by rw [RegistrationCount.number, written.cseq]; rfl⟩

theorem started_of_answered
    {expires : UInt32} {challenge : DigestChallenge}
    (h : Answered p.1 expires challenge p.2.toOption.toList) :
    Started p ∧ ((∃ s, p.2 = .ok s) ↔ Buildable p.1.config ∧ Filled challenge) := by
  generalize hout : p.2.toOption.toList = out at h
  cases h with
  | sent r _ filled credentials produced =>
    obtain ⟨hstarted,hmade⟩ := started_of_produced (hout ▸ produced)
    exact ⟨hstarted,by rw [hmade]; exact (and_iff_left filled).symm⟩
  | none empty =>
    have hnone : ∀ s, p.2 ≠ .ok s := by
      intro s hs
      rw [hs] at hout
      cases hout
    refine ⟨fun s hs => absurd hs (hnone s),⟨fun ⟨s,hs⟩ => absurd hs (hnone s),fun hb => ?_⟩⟩
    rcases empty with empty | empty
    · exact absurd empty hb.2.1
    · exact absurd empty hb.2.2

theorem createUnregister_started (hash : HashFns) (m : RegistrationManager) (fresh : Fresh) :
    Started (createUnregister hash m fresh) ∧ ((∃ s, (createUnregister hash m fresh).2 = .ok s) ↔
      Buildable m.config ∧ ∀ challenge, m.lastChallenge = some challenge → Filled challenge) := by
  cases hlast : m.lastChallenge with
  | none =>
    have hproduced : Produced (createUnregister hash m fresh).1 0 none
        (createUnregister hash m fresh).2.toOption.toList := by
      simp only [createUnregister, hlast]
      exact produced_plain _ fresh.branch 0
    obtain ⟨hstarted,hmade⟩ := started_of_produced hproduced
    refine ⟨hstarted,hmade.trans ?_⟩
    simp [createUnregister, hlast]
  | some challenge =>
    have hanswered : Answered (createUnregister hash m fresh).1 0 challenge
        (createUnregister hash m fresh).2.toOption.toList := by
      simp only [createUnregister, hlast]
      exact answered_direct hash _ challenge fresh 0
    obtain ⟨hstarted,hmade⟩ := started_of_answered hanswered
    refine ⟨hstarted,hmade.trans ?_⟩
    simp [createUnregister, hlast]

theorem createUnregister_fields (hash : HashFns) (m : RegistrationManager) (fresh : Fresh) :
    (createUnregister hash m fresh).1.state = .unregistering ∧
    (createUnregister hash m fresh).1.callId = m.callId ∧
    (createUnregister hash m fresh).1.cseq = m.cseq+1 := by
  rw [createUnregister]
  cases m.lastChallenge <;> exact ⟨rfl,rfl,rfl⟩

end Loop

/-- The driver is right about its success exactly if the response that decides
answers the request sent last. -/
theorem driver_sound_iff (std : StdText) (hash : HashFns) (m : RegistrationManager)
    (fresh : Fresh) (ds : List Incoming) :
    (Sound .registered ds (register std hash m fresh ds) ↔
      (Buildable m.config → Matching std m.callId (m.cseq+1) ds)) ∧
    (Sound .unregistered ds (unregister std hash m fresh ds) ↔
      (Buildable m.config ∧ (∀ challenge, m.lastChallenge = some challenge → Filled challenge) →
        Matching std m.callId (m.cseq+1) ds)) := by
  constructor
  · have hregister : (createRegister m fresh).1.state ≠ .unregistering := by
      simp only [createRegister]
      split <;> simp
    obtain ⟨hstarted,hmade⟩ := started_of_produced (p := createRegister m fresh)
      (produced_plain _ fresh.branch _)
    have hsound := runRequest_sound_iff std hash hstarted ds
    rw [if_neg hregister, hmade] at hsound
    exact hsound
  · obtain ⟨hstate,hid,hcseq⟩ := createUnregister_fields hash m fresh
    obtain ⟨hstarted,hmade⟩ := createUnregister_started hash m fresh
    have hsound := runRequest_sound_iff std hash hstarted ds
    rw [if_pos hstate, hmade, hid, hcseq] at hsound
    exact hsound

def accepted : Incoming := ⟨utf8 "SIP/2.0 202 Accepted\r\n\r\n",0,zeroFresh⟩

/-- A 202 makes the driver report success in state `Registering`. -/
theorem accepted_not_registered :
    (register SdpAgreement.asciiText plainHash (new phone ['c'] ['t']) zeroFresh
      [accepted]).result = .ok () ∧
    (register SdpAgreement.asciiText plainHash (new phone ['c'] ['t']) zeroFresh
      [accepted]).manager.state = .registering := by
  constructor <;> decide +kernel

end RsipRtp.RegistrationDriver
