import RsipRtp.Digest
import RsipRtp.OutputMachine
import RsipRtp.SipBuilderRead

/-!
# Registration with a registrar

The manager builds REGISTER requests, answers digest challenges and keeps the
time at which its binding ends.
-/

namespace RsipRtp.Registration
open SipText SipHeader Uri Sdp Digest SipMessage SipBuilder SipBuilderRead
open OutputMachine (Step total)
open SrtpKdf (Octets)

inductive RegistrationError where
  | authError (text : Text)
  | requestError (text : Text)
  | failed (status : ℕ) (reason : Text)
  | timeout
  | transport (text : Text)
  | malformed (text : Text)
  | authRejected
deriving DecidableEq

inductive RegistrationState where
  | unregistered
  | registering
  | registered
  | refreshing
  | unregistering
  | failed
deriving DecidableEq

structure RegistrationConfig where
  registrar : Text := []
  aor : Text := []
  contact : Text := []
  username : Text := []
  password : Text := []
  expires : UInt32 := 3600
  localAddr : Text := "127.0.0.1"
  localPort : UInt16 := 5060
  transport : Text := "UDP"

structure RegistrationManager where
  config : RegistrationConfig
  state : RegistrationState
  cseq : UInt32
  callId : Text
  fromTag : Text
  expiresAt : Option ℕ
  lastChallenge : Option DigestChallenge
  nc : UInt32

def new (config : RegistrationConfig) (callId fromTag : Text) : RegistrationManager where
  config := config
  state := .unregistered
  cseq := 1
  callId := callId
  fromTag := fromTag
  expiresAt := none
  lastChallenge := none
  nc := 0

def seconds (n : ℕ) : ℕ := n*10^9

def needsRefresh (m : RegistrationManager) (now : ℕ) : Bool :=
  match m.expiresAt with
  | some expiresAt =>
    let window := seconds (m.config.expires.toNat/5)
    if window ≤ expiresAt then decide (expiresAt-window ≤ now) else true
  | none => false

structure Fresh where
  branch : Text
  random : Octets 16

structure Sent where
  request : Request
  credentials : Option DigestResponse

def draft (m : RegistrationManager) (branch : Text) (expires : UInt32) : SipRequestBuilder :=
  let b : SipRequestBuilder := { method := some .register }
  let b := b.setUri m.config.registrar
  let b := b.setVia m.config.localAddr m.config.localPort.toNat m.config.transport branch
  let b := (b.setFrom m.config.aor m.fromTag).setTo m.config.aor
  let b := { b with callId := some m.callId, cseq := some m.cseq.toNat }
  { b.setContact m.config.contact with expires := some expires.toNat }

def finish (b : SipRequestBuilder) (credentials : Option DigestResponse) :
    Except RegistrationError Sent :=
  match b.build with
  | .ok request => .ok { request, credentials }
  | .error e => .error (.requestError e.display)

def createRegister (m : RegistrationManager) (fresh : Fresh) :
    RegistrationManager × Except RegistrationError Sent :=
  let state := if m.state = .registered then RegistrationState.refreshing else .registering
  let m := { m with state, cseq := m.cseq+1 }
  (m,finish (draft m fresh.branch m.config.expires) none)

section Hashed
variable (std : StdText) (hash : HashFns)

def digestResponse (m : RegistrationManager) (challenge : DigestChallenge) (random : Octets 16) :
    Except RegistrationError DigestResponse :=
  match DigestResponse.fromChallenge hash challenge ⟨m.config.username,m.config.password⟩
      "REGISTER" m.config.registrar none (some m.nc) random with
  | .ok r => .ok r
  | .error e => .error (.authError e.display)

def createRegisterWithAuth (m : RegistrationManager) (challenge : DigestChallenge)
    (fresh : Fresh) : RegistrationManager × Except RegistrationError Sent :=
  let m := { m with cseq := m.cseq+1, nc := m.nc+1 }
  (m,do
    let r ← digestResponse hash m challenge fresh.random
    finish { draft m fresh.branch m.config.expires with authorization := some r.toHeaderValue }
      (some r))

def createUnregister (m : RegistrationManager) (fresh : Fresh) :
    RegistrationManager × Except RegistrationError Sent :=
  let m := { m with state := .unregistering, cseq := m.cseq+1 }
  match m.lastChallenge with
  | some challenge =>
    let m := { m with nc := m.nc+1 }
    (m,do
      let r ← digestResponse hash m challenge fresh.random
      finish { draft m fresh.branch 0 with authorization := some r.toHeaderValue } (some r))
  | none => (m,finish (draft m fresh.branch 0) none)

def wwwAuthenticate (response : SipResponse) : Option Text :=
  response.inner.headers.inner.findSome? fun
    | .wwwAuthenticate auth => some auth
    | _ => none

def proxyAuthenticate (response : SipResponse) : Option Text :=
  response.inner.headers.inner.findSome? fun
    | .proxyAuthenticate auth => some auth
    | _ => none

def reason (response : SipResponse) : Text :=
  if response.inner.reason.isEmpty then reasonPhrase response.statusCode
  else response.inner.reason

def readChallenge (header : Option Text) (missing : Text) :
    Except RegistrationError DigestChallenge :=
  match header with
  | none => .error (.authError missing)
  | some value => match DigestChallenge.parse std value with
    | .ok challenge => .ok challenge
    | .error e => .error (.authError e.display)

def createProxyRetry (m : RegistrationManager) (challenge : DigestChallenge) (fresh : Fresh) :
    RegistrationManager × Except RegistrationError Sent :=
  let m := { m with cseq := m.cseq+1, nc := m.nc+1 }
  (m,do
    let r ← digestResponse hash m challenge fresh.random
    finish { draft m fresh.branch m.config.expires with
      proxyAuthorization := some r.toHeaderValue } (some r))

def handleResponse (m : RegistrationManager) (now : ℕ) (response : SipResponse) (fresh : Fresh) :
    RegistrationManager × Except RegistrationError (Option Sent) :=
  let status := response.statusCode
  if status = 200 then
    if m.state = .unregistering then
      ({ m with state := .unregistered, expiresAt := none },.ok none)
    else
      ({ m with state := .registered
                expiresAt := some (now+seconds m.config.expires.toNat) },.ok none)
  else if status = 401 then
    match readChallenge std (wwwAuthenticate response) "401 without WWW-Authenticate" with
    | .error e => (m,.error e)
    | .ok challenge =>
      let p := createRegisterWithAuth hash { m with lastChallenge := some challenge } challenge
        fresh
      (p.1,p.2.map some)
  else if status = 407 then
    match readChallenge std (proxyAuthenticate response)
        "407 without Proxy-Authenticate" with
    | .error e => (m,.error e)
    | .ok challenge =>
      let p := createProxyRetry hash { m with lastChallenge := some challenge } challenge fresh
      (p.1,p.2.map some)
  else if 400 ≤ status then
    ({ m with state := .failed },.error (.failed status (reason response)))
  else (m,.ok none)

def reset (m : RegistrationManager) : RegistrationManager :=
  { m with state := .unregistered, expiresAt := none, lastChallenge := none, nc := 0 }

inductive Call where
  | createRegister (fresh : Fresh)
  | createRegisterWithAuth (challenge : DigestChallenge) (fresh : Fresh)
  | createUnregister (fresh : Fresh)
  | handleResponse (now : ℕ) (response : SipResponse) (fresh : Fresh)
  | reset

def apply (m : RegistrationManager) : Call → RegistrationManager × List Sent
  | .createRegister fresh =>
    let p := createRegister m fresh
    (p.1,p.2.toOption.toList)
  | .createRegisterWithAuth challenge fresh =>
    let p := createRegisterWithAuth hash m challenge fresh
    (p.1,p.2.toOption.toList)
  | .createUnregister fresh =>
    let p := createUnregister hash m fresh
    (p.1,p.2.toOption.toList)
  | .handleResponse now response fresh =>
    let p := handleResponse std hash m now response fresh
    (p.1,(p.2.toOption.bind id).toList)
  | .reset => (reset m,[])

def step : Step RegistrationManager Call Sent := total (apply std hash)

end Hashed

/-! ## What a request says -/

section Requests
variable {m : RegistrationManager}

def Buildable (config : RegistrationConfig) : Prop :=
  (∃ u, parse config.registrar = .ok u) ∧ ∃ v, parse config.aor = .ok v

structure Written (m : RegistrationManager) (expires : UInt32)
    (credentials : Option DigestResponse) (s : Sent) : Prop where
  callId : valueOf s.request.headers "Call-ID" = some m.callId
  from_ : ∃ v, parse m.config.aor = .ok v ∧
    valueOf s.request.headers "From" = some (tagged (SipRequestBuilder.angle v) m.fromTag)
  cseq : ok (typedCSeq s.request.headers) = some ⟨m.cseq.toNat,.register⟩
  expires : valueOf s.request.headers "Expires" = some (natText expires.toNat)
  credentials : s.credentials = credentials

def authorized (b : SipRequestBuilder) (direct proxy : Option Text) : SipRequestBuilder :=
  { b with authorization := direct, proxyAuthorization := proxy }

theorem draft_eq {u v : SipUri} (hu : parse m.config.registrar = .ok u)
    (hv : parse m.config.aor = .ok v) (branch : Text) (expires : UInt32) :
    draft m branch expires =
      { method := some .register, uri := some u
        viaHost := some m.config.localAddr, viaPort := some m.config.localPort.toNat
        viaTransport := some m.config.transport, viaBranch := some branch
        fromUri := some v, fromTag := some m.fromTag, toUri := some v
        callId := some m.callId, cseq := some m.cseq.toNat
        contactUri := ok (parse m.config.contact), expires := some expires.toNat } := by
  simp only [draft, SipRequestBuilder.setVia, setUri_ok _ hu, setFrom_ok _ hv, setTo_ok _ hv,
    SipRequestBuilder.setContact]
  cases parse m.config.contact <;> rfl

theorem draft_uriError (branch : Text) (expires : UInt32) : (draft m branch expires).uriError =
    (({ method := some .register } : SipRequestBuilder).setUri m.config.registrar).uriError := by
  simp only [draft, SipRequestBuilder.setContact]
  cases parse m.config.contact <;> simp [SipRequestBuilder.setVia]

theorem draft_toUriError {branch : Text} {expires : UInt32}
    (h : (draft m branch expires).toUriError = none) : ∃ v, parse m.config.aor = .ok v := by
  have hto : ∀ b : SipRequestBuilder, (b.setContact m.config.contact).toUriError =
      b.toUriError := by
    intro b
    rw [SipRequestBuilder.setContact]
    split <;> rfl
  simp only [draft, hto] at h
  exact setTo_parses _ h

theorem buildable_of_build {branch : Text} {expires : UInt32} {direct proxy : Option Text}
    {r : Request} (h : (authorized (draft m branch expires) direct proxy).build = .ok r) :
    Buildable m.config := by
  obtain ⟨n,headers,hc,_,_⟩ := build_ok.mp h
  have hto : (draft m branch expires).toUriError = none := hc.toUriError
  exact ⟨setUri_parses _ ((draft_uriError branch expires).symm.trans hc.uriError),
    draft_toUriError hto⟩

theorem request_expires {b : SipRequestBuilder} {n : Needed} {hs : Headers} {k : ℕ}
    (hinner : hs.inner = headerList b n) (hk : b.expires = some k) :
    valueOf hs "Expires" = some (natText k) := by
  have hfront : ∀ h ∈ [Header.via (viaText (b.viaTransport.getD "UDP") n.viaHost
        (b.viaPort.getD 5060) n.viaBranch),
      .from (fromText b n),.to (toText b n),.callId n.callId,
      .cseq (natText n.cseq++ ' '::n.method.asStr),
      .maxForwards (natText (b.maxForwards.getD 70))],
      ¬h.nameMatches "Expires" = true := by
    intro h hmem
    simp only [List.mem_cons, List.not_mem_nil, or_false] at hmem
    rcases hmem with rfl | rfl | rfl | rfl | rfl | rfl <;> exact Bool.false_ne_true
  rw [valueOf, Headers.getFirst, hinner]
  simp only [headerList, SipRequestBuilder.optionalHeaders, List.append_assoc, List.find?_append]
  rw [List.find?_eq_none.mpr hfront, find?_toList_neg (g := fun u => Header.contact _) fun _ => rfl,
    find?_toList_neg (g := Header.authorization) fun _ => rfl,
    find?_toList_neg (g := Header.proxyAuthorization) fun _ => rfl, hk]
  rfl

/-- The request that comes of a draft, or nothing if an address does not parse. -/
inductive Produced (m : RegistrationManager) (expires : UInt32)
    (credentials : Option DigestResponse) : List Sent → Prop where
  | sent (s : Sent) (build : Buildable m.config) (written : Written m expires credentials s) :
      Produced m expires credentials [s]
  | none (build : ¬Buildable m.config) : Produced m expires credentials []

theorem finish_produced (branch : Text) (expires : UInt32) (direct proxy : Option Text)
    (credentials : Option DigestResponse) : Produced m expires credentials
      (finish (authorized (draft m branch expires) direct proxy) credentials).toOption.toList := by
  by_cases hb : Buildable m.config
  · obtain ⟨⟨u,hu⟩,v,hv⟩ := hb
    let b := authorized (draft m branch expires) direct proxy
    let n : Needed := ⟨.register,u,v,m.fromTag,v,m.callId,m.cseq.toNat,m.config.localAddr,branch⟩
    have hdraft := draft_eq hu hv branch expires
    have hc : Complete b n := by
      simp only [b, hdraft]
      exact ⟨rfl,rfl,rfl,rfl,rfl,rfl,rfl,rfl,rfl,rfl,rfl,rfl⟩
    have hlen : (headerList b n).length ≤ maxHeaders := by
      simp only [b, hdraft]
      cases ok (parse m.config.contact) <;> cases direct <;> cases proxy <;>
        simp [headerList, authorized, SipRequestBuilder.optionalHeaders, maxHeaders]
    have hbuild := build_exists hc hlen
    have hvalues := request_values (b := b) (n := n)
      (rfl : (⟨headerList b n,hlen⟩ : Headers).inner = headerList b n)
    rw [finish, show (authorized (draft m branch expires) direct proxy).build = _ from hbuild]
    refine .sent _ ⟨⟨u,hu⟩,v,hv⟩ ⟨hvalues.2.2.2.1,⟨v,hv,?_⟩,?_,?_,rfl⟩
    · rw [show fromText b n = tagged (SipRequestBuilder.angle v) m.fromTag by
        simp only [b, hdraft]; rfl] at hvalues
      exact hvalues.2.1
    · rw [ok_typedCSeq]
      change (valueOf ⟨headerList b n,hlen⟩ "CSeq").bind cseqOf = _
      rw [hvalues.2.2.2.2, Option.bind_some, cseqOf,
        SipReply.parseCSeq_text (n := n.cseq) (UInt32.toNat_lt m.cseq)]
      rfl
    · refine request_expires (b := b) (n := n) rfl ?_
      simp only [b, hdraft]
      rfl
  · rw [finish]
    split
    · rename_i h
      exact absurd (buildable_of_build h) hb
    · exact .none hb

end Requests

/-! ## What a call does -/

section Effects
variable {std : StdText} {hash : HashFns} {m : RegistrationManager} {response : SipResponse}

/-- The credentials that answer a challenge, with the count of the manager. -/
structure Credentials (m : RegistrationManager) (challenge : DigestChallenge) (r : DigestResponse) :
    Prop where
  nonce : r.nonce = challenge.nonce
  qop : r.qop = challenge.qop
  nc : r.nc = challenge.qop.map fun _ => m.nc

inductive Answered (m : RegistrationManager) (expires : UInt32) (challenge : DigestChallenge) :
    List Sent → Prop where
  | sent (r : DigestResponse) (out : List Sent)
      (filled : challenge.realm ≠ [] ∧ challenge.nonce ≠ [])
      (credentials : Credentials m challenge r) (produced : Produced m expires (some r) out) :
      Answered m expires challenge out
  | none (empty : challenge.realm = [] ∨ challenge.nonce = []) : Answered m expires challenge []

theorem digestResponse_cases (hash : HashFns) (m : RegistrationManager)
    (challenge : DigestChallenge)
    (random : Octets 16) :
    (∃ r, digestResponse hash m challenge random = .ok r ∧
      (challenge.realm ≠ [] ∧ challenge.nonce ≠ []) ∧ Credentials m challenge r) ∨
    (∃ e, digestResponse hash m challenge random = .error e) ∧
      (challenge.realm = [] ∨ challenge.nonce = []) := by
  unfold digestResponse DigestResponse.fromChallenge
  by_cases hrealm : challenge.realm = []
  · exact .inr ⟨⟨_,by rw [if_pos (by simp [hrealm])]⟩,.inl hrealm⟩
  by_cases hnonce : challenge.nonce = []
  · refine .inr ⟨⟨_,by rw [if_neg (by simpa using hrealm), if_pos (by simp [hnonce])]⟩,.inr hnonce⟩
  refine .inl ?_
  rw [if_neg (by simpa using hrealm), if_neg (by simpa using hnonce)]
  refine ⟨_,rfl,⟨hrealm,hnonce⟩,rfl,rfl,?_⟩
  cases challenge.qop <;> rfl

theorem answered (challenge : DigestChallenge) (fresh : Fresh) (expires : UInt32)
    (header : DigestResponse → Option Text × Option Text) :
    Answered m expires challenge (do
      let r ← digestResponse hash m challenge fresh.random
      finish (authorized (draft m fresh.branch expires) (header r).1 (header r).2)
        (some r)).toOption.toList := by
  rcases digestResponse_cases hash m challenge fresh.random with
    ⟨r,hr,hfilled,hcred⟩ | ⟨⟨e,he⟩,hempty⟩
  · rw [hr]
    exact .sent r _ hfilled hcred (finish_produced _ _ _ _ _)
  · rw [he]
    exact .none hempty

theorem produced_plain (m : RegistrationManager) (branch : Text) (expires : UInt32) :
    Produced m expires none (finish (draft m branch expires) none).toOption.toList :=
  finish_produced branch expires (draft m branch expires).authorization
    (draft m branch expires).proxyAuthorization none

theorem answered_direct (hash : HashFns) (m : RegistrationManager) (challenge : DigestChallenge)
    (fresh : Fresh) (expires : UInt32) : Answered m expires challenge (do
      let r ← digestResponse hash m challenge fresh.random
      finish { draft m fresh.branch expires with authorization := some r.toHeaderValue }
        (some r)).toOption.toList :=
  answered challenge fresh expires fun r =>
    (some r.toHeaderValue,(draft m fresh.branch expires).proxyAuthorization)

theorem answered_proxy (hash : HashFns) (m : RegistrationManager) (challenge : DigestChallenge)
    (fresh : Fresh) (expires : UInt32) : Answered m expires challenge (do
      let r ← digestResponse hash m challenge fresh.random
      finish { draft m fresh.branch expires with proxyAuthorization := some r.toHeaderValue }
        (some r)).toOption.toList :=
  answered challenge fresh expires fun r =>
    ((draft m fresh.branch expires).authorization,some r.toHeaderValue)

def challengeOf (std : StdText) (response : SipResponse) : Option DigestChallenge :=
  if response.statusCode = 401 then (readChallenge std (wwwAuthenticate response) []).toOption
  else if response.statusCode = 407 then
    (readChallenge std (proxyAuthenticate response) []).toOption
  else none

theorem readChallenge_missing (header : Option Text) (a b : Text) :
    (readChallenge std header a).toOption = (readChallenge std header b).toOption := by
  cases header <;> rfl

def counted (m : RegistrationManager) : RegistrationManager :=
  { m with cseq := m.cseq+1, nc := m.nc+1 }

theorem handleResponse_other (h200 : response.statusCode ≠ 200) (h400 : response.statusCode < 400)
    (now : ℕ) (fresh : Fresh) : handleResponse std hash m now response fresh = (m,.ok none) := by
  rw [handleResponse]
  dsimp only
  rw [if_neg h200, if_neg (by omega), if_neg (by omega), if_neg (by omega)]

theorem handleResponse_success (std : StdText) (hash : HashFns) (m : RegistrationManager)
    (h200 : response.statusCode = 200) (now : ℕ) (fresh : Fresh) :
    (handleResponse std hash m now response fresh).2 = .ok none ∧
    (handleResponse std hash m now response fresh).1.state =
      if m.state = .unregistering then .unregistered else .registered := by
  rw [handleResponse]
  dsimp only
  rw [if_pos h200]
  split_ifs <;> exact ⟨rfl,rfl⟩

theorem handleResponse_refused (std : StdText) (hash : HashFns) (m : RegistrationManager)
    (h400 : 400 ≤ response.statusCode) (now : ℕ) (fresh : Fresh) :
    (handleResponse std hash m now response fresh).2 ≠ .ok none := by
  have hmap : ∀ x : Except RegistrationError Sent, x.map some ≠ .ok none := by
    intro x h
    cases x <;> cases h
  rw [handleResponse]
  dsimp only
  rw [if_neg (by omega)]
  split_ifs
  · split
    · simp
    · exact hmap _
  · split
    · simp
    · exact hmap _
  · simp

inductive Effect (std : StdText) (m : RegistrationManager) :
    Call → RegistrationManager → List Sent → Prop where
  | register (fresh : Fresh) (out : List Sent) (next : RegistrationManager)
      (hnext : next = { m with
        state := if m.state = .registered then .refreshing else .registering, cseq := m.cseq+1 })
      (produced : Produced next m.config.expires none out) :
      Effect std m (.createRegister fresh) next out
  | authenticate (challenge : DigestChallenge) (fresh : Fresh) (out : List Sent)
      (answered : Answered (counted m) m.config.expires challenge out) :
      Effect std m (.createRegisterWithAuth challenge fresh) (counted m) out
  | challenged (now : ℕ) (response : SipResponse) (fresh : Fresh) (challenge : DigestChallenge)
      (out : List Sent) (brought : challengeOf std response = some challenge)
      (next : RegistrationManager)
      (hnext : next = counted { m with lastChallenge := some challenge })
      (answered : Answered next m.config.expires challenge out) :
      Effect std m (.handleResponse now response fresh) next out
  | unregister (fresh : Fresh) (out : List Sent) (unchallenged : m.lastChallenge = none)
      (next : RegistrationManager)
      (hnext : next = { m with state := .unregistering, cseq := m.cseq+1 })
      (produced : Produced next 0 none out) : Effect std m (.createUnregister fresh) next out
  | unregisterAgain (fresh : Fresh) (challenge : DigestChallenge) (out : List Sent)
      (last : m.lastChallenge = some challenge) (next : RegistrationManager)
      (hnext : next = counted { m with state := .unregistering })
      (answered : Answered next 0 challenge out) : Effect std m (.createUnregister fresh) next out
  | removed (now : ℕ) (response : SipResponse) (fresh : Fresh)
      (success : response.statusCode = 200) (state : m.state = .unregistering) :
      Effect std m (.handleResponse now response fresh)
        { m with state := .unregistered, expiresAt := none } []
  | bound (now : ℕ) (response : SipResponse) (fresh : Fresh)
      (success : response.statusCode = 200) (state : m.state ≠ .unregistering) :
      Effect std m (.handleResponse now response fresh)
        { m with state := .registered
                 expiresAt := some (now+seconds m.config.expires.toNat) } []
  | quiet (now : ℕ) (response : SipResponse) (fresh : Fresh) (state : RegistrationState)
      (other : response.statusCode ≠ 200) (unchallenged : challengeOf std response = none)
      (kept : state = m.state ∨ state = .failed) :
      Effect std m (.handleResponse now response fresh) { m with state } []
  | reset : Effect std m .reset (reset m) []

theorem challenge_effect {header : Option Text} {missing : Text}
    (hof : challengeOf std response = (readChallenge std header missing).toOption)
    (h200 : response.statusCode ≠ 200) (now : ℕ) (fresh : Fresh)
    (retry : DigestChallenge → Except RegistrationError Sent)
    (hretry : ∀ c, Answered (counted { m with lastChallenge := some c }) m.config.expires c
      (retry c).toOption.toList) :
    let p := match readChallenge std header missing with
      | .error e => (m,Except.error e)
      | .ok c => (counted { m with lastChallenge := some c },(retry c).map some)
    Effect std m (.handleResponse now response fresh) p.1 (p.2.toOption.bind id).toList := by
  cases hread : readChallenge std header missing with
  | error e => exact .quiet now response fresh m.state h200 (by rw [hof, hread]; rfl) (.inl rfl)
  | ok c =>
    have hmap : (((retry c).map some).toOption.bind id).toList = (retry c).toOption.toList := by
      cases retry c <;> rfl
    dsimp only
    rw [hmap]
    exact .challenged now response fresh c _ (by rw [hof, hread]; rfl) _ rfl (hretry c)

theorem handleResponse_effect (std : StdText) (hash : HashFns) (m : RegistrationManager) (now : ℕ)
    (response : SipResponse) (fresh : Fresh) :
    Effect std m (.handleResponse now response fresh)
      (handleResponse std hash m now response fresh).1
      ((handleResponse std hash m now response fresh).2.toOption.bind id).toList := by
  unfold handleResponse
  dsimp only
  split_ifs with h200 hstate h401 h407 h400
  · exact .removed now response fresh h200 hstate
  · exact .bound now response fresh h200 hstate
  · exact challenge_effect (by rw [challengeOf, if_pos h401]; exact readChallenge_missing _ _ _)
      h200 now fresh _ fun c => answered_direct hash _ c fresh _
  · exact challenge_effect
      (by rw [challengeOf, if_neg h401, if_pos h407]; exact readChallenge_missing _ _ _)
      h200 now fresh _ fun c => answered_proxy hash _ c fresh _
  · exact .quiet now response fresh .failed h200 (by rw [challengeOf, if_neg h401, if_neg h407])
      (.inr rfl)
  · exact .quiet now response fresh m.state h200 (by rw [challengeOf, if_neg h401, if_neg h407])
      (.inl rfl)

theorem apply_effect (std : StdText) (hash : HashFns) (m : RegistrationManager) (c : Call) :
    Effect std m c (apply std hash m c).1 (apply std hash m c).2 := by
  cases c with
  | createRegister fresh =>
    exact .register fresh _ _ rfl (produced_plain _ fresh.branch _)
  | createRegisterWithAuth challenge fresh =>
    exact .authenticate challenge fresh _
      (answered_direct hash _ challenge fresh _)
  | createUnregister fresh =>
    cases hlast : m.lastChallenge with
    | none =>
      simp only [apply, createUnregister, hlast]
      exact .unregister fresh _ hlast _ (by rw [hlast])
        (produced_plain _ fresh.branch 0)
    | some challenge =>
      simp only [apply, createUnregister, hlast]
      exact .unregisterAgain fresh challenge _ hlast _ (by rw [counted, hlast])
        (answered_direct hash _ challenge fresh 0)
  | handleResponse now response fresh => exact handleResponse_effect std hash m now response fresh
  | reset => exact .reset

end Effects

end RsipRtp.Registration
