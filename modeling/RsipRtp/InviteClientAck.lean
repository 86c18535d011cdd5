import RsipRtp.InviteClient
import RsipRtp.SipBuilder
import RsipRtp.SipReply

/-!
# The ACK of a failed INVITE

The ACK is written from the parsed parts of the INVITE, and the response that
it acknowledges is not looked at.
-/

namespace RsipRtp.InviteClientAck
open SipText Uri SipHeader SipMessage SipBuilder TransactionTimer InviteClient
open SipRequestBuilder (angle)

variable {invite : SipRequest}

def values (hs : Headers) (name : Text) : List Text :=
  (hs.inner.filter (·.nameMatches name)).map Header.value

structure Acknowledges (invite : SipRequest) (response : SipResponse) (ack : Request) : Prop where
  method : ack.method = .ack
  uri : ack.uri = invite.inner.uri
  callId : firstValue ack.headers "Call-ID" = invite.callId
  fromValue : firstValue ack.headers "From" =
    firstValue invite.inner.headers "From"
  cseq : typedCSeq ack.headers = invite.cseq.map (fun n => { seq := n, method := .ack })
  via : ∃ v, firstValue invite.inner.headers "Via" = .ok v ∧
    values ack.headers "Via" = [v]
  branch : viaBranch ack.headers = invite.viaBranch
  routes : values ack.headers "Route" = values invite.inner.headers "Route"
  toValue : firstValue ack.headers "To" = firstValue response.inner.headers "To"

/-- The text of a URI after it went through the builder, which parses what it
is given once more. -/
def rewritten (u : SipUri) : Option Text := (ok (parse (display u))).map display

def bracketed (uri : Text) : Text := '<'::uri++['>']

structure Kept (invite : SipRequest) (response : SipResponse) : Prop where
  uri : rewritten invite.uri = some invite.inner.uri
  callId : ∃ c, invite.callId = .ok c
  fromValue : ∃ tag uri u, invite.fromTagAndUri = .ok (tag,uri) ∧ rewritten uri = some u ∧
    firstValue invite.inner.headers "From" = .ok (tagged (bracketed u) tag)
  cseq : ∃ n, invite.cseq = .ok n
  via : ∃ branch, invite.viaBranch = .ok branch ∧
    let via := parseViaOrDefault invite.viaHeadersRaw.head? branch
    firstValue invite.inner.headers "Via" =
      .ok (viaText via.protocol via.host via.port branch)
  routes : values invite.inner.headers "Route" = []
  toValue : ∃ uri u, invite.toUri = .ok uri ∧ rewritten uri = some u ∧
    firstValue response.inner.headers "To" = .ok (bracketed u)

/-- What is read off the INVITE, with the URIs as the builder reads them again. -/
structure Parts (invite : SipRequest) where
  branch : Text
  callId : Text
  fromTag : Text
  fromUri : SipUri
  toUri : SipUri
  cseq : ℕ
  newUri : SipUri
  newFrom : SipUri
  newTo : SipUri
  has_branch : invite.viaBranch = .ok branch
  has_callId : invite.callId = .ok callId
  has_from : invite.fromTagAndUri = .ok (fromTag,fromUri)
  has_to : invite.toUri = .ok toUri
  has_cseq : invite.cseq = .ok cseq
  has_newUri : parse (display invite.uri) = .ok newUri
  has_newFrom : parse (display fromUri) = .ok newFrom
  has_newTo : parse (display toUri) = .ok newTo

namespace Parts

variable {invite : SipRequest} (p : Parts invite)

def via : HeaderVia := parseViaOrDefault invite.viaHeadersRaw.head? p.branch

def ackHeaders : Headers where
  inner := [.via (viaText p.via.protocol p.via.host p.via.port p.branch),
    .from (tagged (angle p.newFrom) p.fromTag),.to (angle p.newTo),.callId p.callId,
    .cseq (natText p.cseq++ ' '::Method.ack.asStr),.maxForwards (natText 70),
    .contentLength (natText 0)]
  bound := by simp [maxHeaders]

def ack : Request where
  method := .ack
  uri := display p.newUri
  version := "SIP/2.0"
  headers := p.ackHeaders
  body := []

end Parts

def ackBuilder (uri host : Text) (port : ℕ) (transport branch fromUri tag toUri callId : Text)
    (cseq : ℕ) : SipRequestBuilder :=
  { (((({ method := some .ack } : SipRequestBuilder).setUri uri).setVia host port transport
      branch).setFrom fromUri tag).setTo toUri with callId := some callId, cseq := some cseq }

theorem ackBuilder_ok {uri host transport branch fromUri tag toUri callId : Text} {port cseq : ℕ}
    {u f t : SipUri} (hu : parse uri = .ok u) (hf : parse fromUri = .ok f)
    (ht : parse toUri = .ok t) :
    ackBuilder uri host port transport branch fromUri tag toUri callId cseq =
      { method := some .ack, uri := some u, viaHost := some host, viaPort := some port
        viaTransport := some transport, viaBranch := some branch, fromUri := some f
        fromTag := some tag, toUri := some t, callId := some callId, cseq := some cseq } := by
  rw [ackBuilder, setUri_ok _ hu, setFrom_ok _ hf, setTo_ok _ ht]
  rfl

theorem ackBuilder_parses {uri host transport branch fromUri tag toUri callId : Text}
    {port cseq : ℕ} {n : Needed}
    (h : Complete (ackBuilder uri host port transport branch fromUri tag toUri callId cseq) n) :
    (∃ u, parse uri = .ok u) ∧ (∃ f, parse fromUri = .ok f) ∧ ∃ t, parse toUri = .ok t := by
  have hu := h.uriError
  have hf := h.fromUriError
  have ht := h.toUriError
  simp only [ackBuilder, setTo_uriError, setFrom_uriError, setTo_fromUriError] at hu hf ht
  exact ⟨setUri_parses _ hu,setFrom_parses _ hf,setTo_parses _ ht⟩

theorem build_parts (p : Parts invite) :
    (ackBuilder (display invite.uri) p.via.host p.via.port p.via.protocol p.branch
      (display p.fromUri) p.fromTag (display p.toUri) p.callId p.cseq).build = .ok p.ack := by
  rw [ackBuilder_ok p.has_newUri p.has_newFrom p.has_newTo]
  let n : Needed := ⟨.ack,p.newUri,p.newFrom,p.fromTag,p.newTo,p.callId,p.cseq,p.via.host,p.branch⟩
  refine build_ok.mpr ⟨n,p.ackHeaders,?_,rfl,rfl⟩
  exact ⟨rfl,rfl,rfl,rfl,rfl,rfl,rfl,rfl,rfl,rfl,rfl,rfl⟩

theorem buildAck_iff {ack : Request} :
    buildAckForNon2xx invite = some ack ↔ ∃ p : Parts invite, ack = p.ack := by
  change ((ok invite.viaBranch).bind fun branch => (ok invite.callId).bind fun callId =>
    (ok invite.fromTagAndUri).bind fun q => (ok invite.toUri).bind fun toUri =>
    (ok invite.cseq).bind fun cseq =>
      let via := parseViaOrDefault invite.viaHeadersRaw.head? branch
      ok (ackBuilder (display invite.uri) via.host via.port via.protocol branch (display q.2)
        q.1 (display toUri) callId cseq).build) = _ ↔ _
  simp only [Option.bind_eq_some_iff, ok_eq_some]
  constructor
  · rintro ⟨branch,hbranch,callId,hcallId,⟨fromTag,fromUri⟩,hfrom,toUri,hto,cseq,hcseq,hbuild⟩
    obtain ⟨n,headers,hc,-,-⟩ := build_ok.mp hbuild
    obtain ⟨⟨u,hu⟩,⟨f,hf⟩,t,ht⟩ := ackBuilder_parses hc
    let p : Parts invite := ⟨branch,callId,fromTag,fromUri,toUri,cseq,u,f,t,hbranch,hcallId,hfrom,
      hto,hcseq,hu,hf,ht⟩
    exact ⟨p,Except.ok.inj (hbuild.symm.trans (build_parts p))⟩
  · rintro ⟨p,rfl⟩
    exact ⟨p.branch,p.has_branch,p.callId,p.has_callId,(p.fromTag,p.fromUri),p.has_from,
      p.toUri,p.has_to,p.cseq,p.has_cseq,build_parts p⟩

theorem ack_lookup (p : Parts invite) :
    firstValue p.ack.headers "Call-ID" = .ok p.callId ∧
      firstValue p.ack.headers "From" = .ok (tagged (angle p.newFrom) p.fromTag) ∧
      firstValue p.ack.headers "To" = .ok (angle p.newTo) ∧
      firstValue p.ack.headers "Via" =
        .ok (viaText p.via.protocol p.via.host p.via.port p.branch) ∧
      values p.ack.headers "Via" =
        [viaText p.via.protocol p.via.host p.via.port p.branch] ∧
      values p.ack.headers "Route" = [] :=
  ⟨rfl,rfl,rfl,rfl,rfl,rfl⟩

theorem asParse_ok {α : Type} {x : Except SipError α} {a : α} (h : asParse x = .ok a) :
    x = .ok a := by
  cases x with
  | error e => cases h
  | ok b => exact h

theorem typedCSeq_lt {hs : Headers} {c : CSeq} (h : typedCSeq hs = .ok c) : c.seq < 2^32 := by
  obtain ⟨value,-,hc⟩ := bind_ok h
  exact SipReply.parseCSeq_lt (asParse_ok hc)

theorem ack_cseq (p : Parts invite) :
    typedCSeq p.ack.headers = .ok { seq := p.cseq, method := .ack } := by
  have hlt : p.cseq < 2^32 := by
    obtain ⟨c,hc,hseq⟩ := map_ok p.has_cseq
    rw [← hseq]
    exact typedCSeq_lt hc
  change asParse (parseCSeq (natText p.cseq++ ' '::Method.ack.asStr)) = _
  rw [SipReply.parseCSeq_text hlt]
  rfl

theorem rewritten_eq {u v : SipUri} (h : parse (display u) = .ok v) :
    rewritten u = some (display v) := by
  rw [rewritten, h]
  rfl

/-- The ACK is what it should be exactly when the INVITE and the response have
nothing that it leaves out. -/
theorem acknowledges_iff (response : SipResponse) (p : Parts invite) :
    Acknowledges invite response p.ack ↔ Kept invite response := by
  obtain ⟨hcall,hfrom,hto,hvia,hvias,hroutes⟩ := ack_lookup p
  constructor
  · intro h
    obtain ⟨v,hv,hvs⟩ := h.via
    cases hvs
    refine ⟨?_,⟨p.callId,p.has_callId⟩,?_,⟨p.cseq,p.has_cseq⟩,⟨p.branch,p.has_branch,hv⟩,
      h.routes.symm,?_⟩
    · rw [rewritten_eq p.has_newUri]
      exact congrArg some h.uri
    · exact ⟨p.fromTag,p.fromUri,display p.newFrom,p.has_from,rewritten_eq p.has_newFrom,
        h.fromValue.symm.trans hfrom⟩
    · exact ⟨p.toUri,display p.newTo,p.has_to,rewritten_eq p.has_newTo,
        h.toValue.symm.trans hto⟩
  · intro h
    obtain ⟨tag,uri,u,hfu,hu,hfv⟩ := h.fromValue
    obtain ⟨branch,hbranch,hv⟩ := h.via
    obtain ⟨toUri,t,htu,ht,htv⟩ := h.toValue
    cases p.has_from.symm.trans hfu
    cases p.has_branch.symm.trans hbranch
    cases p.has_to.symm.trans htu
    cases (rewritten_eq p.has_newFrom).symm.trans hu
    cases (rewritten_eq p.has_newTo).symm.trans ht
    have huri := Option.some.inj ((rewritten_eq p.has_newUri).symm.trans h.uri)
    refine ⟨rfl,huri,hcall.trans p.has_callId.symm,hfrom.trans hfv.symm,?_,⟨_,hv,hvias⟩,?_,
      hroutes.trans h.routes.symm,hto.trans htv.symm⟩
    · rw [ack_cseq, p.has_cseq]
      rfl
    · rw [SipRequest.viaBranch, viaBranch, viaBranch, hvia, hv]
      rfl

theorem sendAck_sends {tx : InviteClientTransaction} {ack : Request}
    (h : buildAckForNon2xx tx.request = some ack) : sends (sendAck tx) = [ack.toBytes] := by
  rw [sendAck, h]
  rfl

theorem handleResponse_sends {tx : InviteClientTransaction} {response : SipResponse}
    (hstate : tx.state = .calling ∨ tx.state = .proceeding) (hcode : 300 ≤ response.statusCode) :
    sends (handleResponse tx response).2 = sends (sendAck tx) := by
  have hfinal : sends (finalFailure tx response).2 = sends (sendAck tx) := by
    simp only [finalFailure]
    split_ifs <;> simp
  have h1 : ¬(100 ≤ response.statusCode ∧ response.statusCode < 200) := by omega
  have h2 : ¬(200 ≤ response.statusCode ∧ response.statusCode < 300) := by omega
  rcases hstate with hstate | hstate
  · simp only [handleResponse, hstate, if_neg h1, if_neg h2, if_pos hcode, sends_append]
    exact hfinal
  · simp only [handleResponse, hstate, if_neg h1, if_neg h2, if_pos hcode, sends_append]
    exact hfinal

/-- The transaction acknowledges a failure as it should exactly when the
INVITE and the response have nothing that the rebuilt ACK leaves out. -/
theorem failure_acknowledged_iff {tx : InviteClientTransaction} {response : SipResponse}
    (hstate : tx.state = .calling ∨ tx.state = .proceeding) (hcode : 300 ≤ response.statusCode) :
    (∃ ack, buildAckForNon2xx tx.request = some ack ∧
      sends (handleResponse tx response).2 = [ack.toBytes] ∧
      Acknowledges tx.request response ack) ↔ Kept tx.request response := by
  constructor
  · rintro ⟨ack,hack,-,h⟩
    obtain ⟨p,rfl⟩ := buildAck_iff.mp hack
    exact (acknowledges_iff response p).mp h
  · intro h
    obtain ⟨callId,hcallId⟩ := h.callId
    obtain ⟨tag,uri,u,hfrom,hu,-⟩ := h.fromValue
    obtain ⟨cseq,hcseq⟩ := h.cseq
    obtain ⟨branch,hbranch,-⟩ := h.via
    obtain ⟨toUri,t,hto,ht,-⟩ := h.toValue
    obtain ⟨newUri,hnewUri,-⟩ := Option.map_eq_some_iff.mp h.uri
    obtain ⟨newFrom,hnewFrom,-⟩ := Option.map_eq_some_iff.mp hu
    obtain ⟨newTo,hnewTo,-⟩ := Option.map_eq_some_iff.mp ht
    let p : Parts tx.request := ⟨branch,callId,tag,uri,toUri,cseq,newUri,newFrom,newTo,hbranch,
      hcallId,hfrom,hto,hcseq,ok_eq_some.mp hnewUri,ok_eq_some.mp hnewFrom,ok_eq_some.mp hnewTo⟩
    have hack := buildAck_iff.mpr ⟨p,rfl⟩
    refine ⟨p.ack,hack,?_,(acknowledges_iff response p).mpr h⟩
    rw [handleResponse_sends hstate hcode, sendAck_sends hack]

/-- A 486 whose `To` is the plain address of the INVITE. -/
def untaggedBusy : SipResponse :=
  let busy := (createResponse .invite testBranch 486).inner
  ⟨{ busy with headers := ⟨busy.headers.inner.map fun
      | .to _ => .to "<sip:bob@example.com>"
      | h => h,by rw [List.length_map]; exact busy.headers.bound⟩ }⟩

theorem untagged_busy_acknowledged :
    let tx := (start (createRequest .invite testBranch) false ⟨testBranch,.invite⟩).1
    ∃ ack, buildAckForNon2xx tx.request = some ack ∧
      sends (handleResponse tx untaggedBusy).2 = [ack.toBytes] ∧
      Acknowledges tx.request untaggedBusy ack :=
  (failure_acknowledged_iff (.inl rfl) (by decide)).mpr
    { uri := by decide +kernel
      callId := ⟨"test@example.com",by decide +kernel⟩
      fromValue := ⟨"fromtag",
        { scheme := .sip, user := some "alice", host := "example.com", port := none
          params := [], headers := [] },"sip:alice@example.com",by decide +kernel,
        by decide +kernel,by decide +kernel⟩
      cseq := ⟨1,by decide +kernel⟩
      via := ⟨testBranch,by decide +kernel,by decide +kernel⟩
      routes := by decide +kernel
      toValue := ⟨{ scheme := .sip, user := some "bob", host := "example.com"
                    port := none, params := [], headers := [] },
        "sip:bob@example.com",by decide +kernel,by decide +kernel,by decide +kernel⟩ }

/-- The 486 of the source's own tests has a tag, and its ACK has none. -/
theorem tagged_busy_not_acknowledged :
    let tx := (start (createRequest .invite testBranch) false ⟨testBranch,.invite⟩).1
    let busy := createResponse .invite testBranch 486
    ∃ ack, buildAckForNon2xx tx.request = some ack ∧
      sends (handleResponse tx busy).2 = [ack.toBytes] ∧ busy.toTag = some "totag".toList ∧
      toTag ack.headers = none ∧ ¬Acknowledges tx.request busy ack := by
  intro tx busy
  obtain ⟨ack,hack⟩ : ∃ ack, buildAckForNon2xx tx.request = some ack :=
    Option.isSome_iff_exists.mp (by decide +kernel)
  have htag : (buildAckForNon2xx tx.request).map (fun a => toTag a.headers) = some none := by
    decide +kernel
  have hto : (buildAckForNon2xx tx.request).map (fun a =>
      decide (firstValue a.headers "To" = firstValue busy.inner.headers "To")) =
      some false := by
    decide +kernel
  rw [hack] at htag hto
  refine ⟨ack,hack,?_,by decide +kernel,Option.some.inj htag,fun h => ?_⟩
  · rw [handleResponse_sends (.inl rfl) (by decide), sendAck_sends hack]
  · exact of_decide_eq_false (Option.some.inj hto) h.toValue

end RsipRtp.InviteClientAck
