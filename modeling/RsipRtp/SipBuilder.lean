import RsipRtp.SipHeaderBlock

/-!
# What the request builder writes

`build` fails unless nine fields are there and no URI setter has failed.
-/

namespace RsipRtp.SipBuilder
open SipText Uri SipHeader SipMessage SipHeaderBlock SipRequestBuilder

structure Needed where
  method : Method
  uri : SipUri
  fromUri : SipUri
  fromTag : Text
  toUri : SipUri
  callId : Text
  cseq : ℕ
  viaHost : Text
  viaBranch : Text

structure Complete (b : SipRequestBuilder) (n : Needed) : Prop where
  uriError : b.uriError = none
  fromUriError : b.fromUriError = none
  toUriError : b.toUriError = none
  method : b.method = some n.method
  uri : b.uri = some n.uri
  fromUri : b.fromUri = some n.fromUri
  fromTag : b.fromTag = some n.fromTag
  toUri : b.toUri = some n.toUri
  callId : b.callId = some n.callId
  cseq : b.cseq = some n.cseq
  viaHost : b.viaHost = some n.viaHost
  viaBranch : b.viaBranch = some n.viaBranch

def viaText (transport host : Text) (port : ℕ) (branch : Text) : Text :=
  "SIP/2.0/"++transport++ ' '::host++ ':'::natText port++ ";branch="++branch

def tagged (addr tag : Text) : Text := addr++ ";tag="++tag

def fromText (b : SipRequestBuilder) (n : Needed) : Text :=
  match b.fromDisplay with
  | some d => tagged ('"'::d++ "\" "++angle n.fromUri) n.fromTag
  | none => tagged (angle n.fromUri) n.fromTag

def toText (b : SipRequestBuilder) (n : Needed) : Text :=
  match b.toTag with
  | some tag => tagged (angle n.toUri) tag
  | none => angle n.toUri

def headerList (b : SipRequestBuilder) (n : Needed) : List Header :=
  let body := b.body.getD []
  [Header.via (viaText (b.viaTransport.getD "UDP") n.viaHost (b.viaPort.getD 5060)
      n.viaBranch),
    .from (fromText b n),.to (toText b n),.callId n.callId,
    .cseq (natText n.cseq++ ' '::n.method.asStr),.maxForwards (natText (b.maxForwards.getD 70))]++
  optionalHeaders b++
  (if body.isEmpty then [] else (b.contentType.map Header.contentType).toList)++
  [Header.contentLength (natText body.length)]

/-- The request with the given header list, which holds what `headerList` says. -/
def request (b : SipRequestBuilder) (n : Needed) (headers : Headers) : Request where
  method := n.method
  uri := display n.uri
  version := "SIP/2.0"
  headers := headers
  body := b.body.getD []

section Setters

variable (b : SipRequestBuilder) {text tag : Text} {u : SipUri}

theorem setUri_ok (h : parse text = .ok u) :
    b.setUri text = { b with uri := some u, uriError := none } := by
  rw [setUri, h]

theorem setFrom_ok (h : parse text = .ok u) :
    b.setFrom text tag =
      { b with fromUri := some u, fromUriError := none, fromTag := some tag } := by
  rw [setFrom, h]

theorem setTo_ok (h : parse text = .ok u) :
    b.setTo text = { b with toUri := some u, toUriError := none } := by
  rw [setTo, h]

theorem setUri_parses (h : (b.setUri text).uriError = none) : ∃ u, parse text = .ok u := by
  rw [setUri] at h
  split at h
  · exact ⟨_,‹_›⟩
  · cases h

theorem setFrom_parses (h : (b.setFrom text tag).fromUriError = none) :
    ∃ u, parse text = .ok u := by
  rw [setFrom] at h
  split at h
  · exact ⟨_,‹_›⟩
  · cases h

theorem setTo_parses (h : (b.setTo text).toUriError = none) : ∃ u, parse text = .ok u := by
  rw [setTo] at h
  split at h
  · exact ⟨_,‹_›⟩
  · cases h

@[simp] theorem setFrom_uriError : (b.setFrom text tag).uriError = b.uriError := by
  rw [setFrom]
  split <;> rfl

@[simp] theorem setTo_uriError : (b.setTo text).uriError = b.uriError := by
  rw [setTo]
  split <;> rfl

@[simp] theorem setTo_fromUriError : (b.setTo text).fromUriError = b.fromUriError := by
  rw [setTo]
  split <;> rfl

end Setters

theorem required_ok {α : Type} {what : Text} {o : Option α} {a : α} :
    required what o = .ok a ↔ o = some a := by
  cases o with
  | none => exact ⟨nofun,nofun⟩
  | some x =>
    constructor
    · rintro ⟨⟩
      rfl
    · rintro ⟨⟩
      rfl

theorem noError_ok {o : Option Text} {u : Unit} : noError o = .ok u ↔ o = none := by
  cases o with
  | none => exact ⟨fun _ => rfl,fun _ => rfl⟩
  | some e => exact ⟨nofun,nofun⟩

theorem build_ok {b : SipRequestBuilder} {req : Request} :
    b.build = .ok req ↔ ∃ n headers, Complete b n ∧ headers.inner = headerList b n ∧
      req = request b n headers := by
  constructor
  · intro h
    obtain ⟨_,h1,h⟩ := bind_ok h
    obtain ⟨_,h2,h⟩ := bind_ok h
    obtain ⟨_,h3,h⟩ := bind_ok h
    obtain ⟨method,hmethod,h⟩ := bind_ok h
    obtain ⟨uri,huri,h⟩ := bind_ok h
    obtain ⟨fromUri,hfromUri,h⟩ := bind_ok h
    obtain ⟨fromTag,hfromTag,h⟩ := bind_ok h
    obtain ⟨toUri,htoUri,h⟩ := bind_ok h
    obtain ⟨callId,hcallId,h⟩ := bind_ok h
    obtain ⟨cseq,hcseq,h⟩ := bind_ok h
    obtain ⟨viaHost,hviaHost,h⟩ := bind_ok h
    obtain ⟨viaBranch,hviaBranch,h⟩ := bind_ok h
    obtain ⟨headers,hheaders,h⟩ := bind_ok h
    cases h
    let n : Needed := ⟨method,uri,fromUri,fromTag,toUri,callId,cseq,viaHost,viaBranch⟩
    have hlist : headers.inner = headerList b n := pushAll_ok.mp hheaders
    exact ⟨n,headers,⟨noError_ok.mp h1,noError_ok.mp h2,noError_ok.mp h3,required_ok.mp hmethod,
      required_ok.mp huri,required_ok.mp hfromUri,required_ok.mp hfromTag,required_ok.mp htoUri,
      required_ok.mp hcallId,required_ok.mp hcseq,required_ok.mp hviaHost,
      required_ok.mp hviaBranch⟩,hlist,rfl⟩
  · rintro ⟨n,headers,hc,hlist,rfl⟩
    have hheaders := pushAll_ok.mpr hlist
    simp only [build, hc.uriError, hc.fromUriError, hc.toUriError, hc.method, hc.uri, hc.fromUri,
      hc.fromTag, hc.toUri, hc.callId, hc.cseq, hc.viaHost, hc.viaBranch, noError, required,
      ok_bind]
    exact (congrArg (· >>= fun hs => pure (request b n hs)) hheaders).trans rfl

theorem build_exists {b : SipRequestBuilder} {n : Needed} (hc : Complete b n)
    (hlen : (headerList b n).length ≤ maxHeaders) :
    b.build = .ok (request b n ⟨headerList b n,hlen⟩) :=
  build_ok.mpr ⟨n,_,hc,rfl,rfl⟩

end RsipRtp.SipBuilder
