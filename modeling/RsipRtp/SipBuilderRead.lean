import RsipRtp.ParamText
import RsipRtp.SipBuilder
import RsipRtp.SipWire

/-!
# Reading back what a builder wrote

A request or a response is built from texts that go into header values and
into the start line as they are.
-/

namespace RsipRtp.SipBuilderRead
open SipText Utf8 Uri SipHeader SipFraming SipHeaderBlock SipRoundTrip SipWire SipBuilder
open NameAddrText ParamText
open SipMessage hiding Message

section Values

def tagOf (value : Text) : Option Text := (ok (parseNameAddr value)).bind NameAddr.tag

def branchOf (value : Text) : Option Text := (ok (parseTypedVia value)).bind TypedVia.branch

def cseqOf (value : Text) : Option CSeq := ok (parseCSeq value)

def valueOf (hs : Headers) (name : Text) : Option Text := (hs.getFirst name).map Header.value

variable {hs hs' : Headers}

theorem valueOf_pairs (hs : Headers) (name : Text) : valueOf hs name =
    ((hs.inner.map pair).find? (fun p => eqIgnoreAsciiCase p.1 (resolveName name))).map
      Prod.snd := by
  rw [List.find?_map, Option.map_map]
  rfl

theorem valueOf_congr (h : hs.inner.map pair = hs'.inner.map pair) (name : Text) :
    valueOf hs name = valueOf hs' name := by
  rw [valueOf_pairs, valueOf_pairs, h]

theorem ok_firstValue (name : Text) : ok (firstValue hs name) = valueOf hs name := by
  rw [firstValue, valueOf]
  cases hs.getFirst name <;> rfl

theorem ok_viaBranch : ok (viaBranch hs) = (valueOf hs "Via").bind branchOf := by
  simp only [viaBranch, firstValue, valueOf]
  cases hs.getFirst "Via" with
  | none => rfl
  | some h =>
    rw [Option.map_some, Option.bind_some, branchOf]
    simp only [bind, Except.bind]
    cases parseTypedVia h.value with
    | error e => rfl
    | ok via =>
      change _ = via.branch
      cases hbranch : via.branch <;> simp [asParse, hbranch] <;> rfl

theorem ok_fromTag : ok ((fromTagAndUri hs).map Prod.fst) =
    (valueOf hs "From").bind tagOf := by
  simp only [fromTagAndUri, firstValue, valueOf]
  cases hs.getFirst "From" with
  | none => rfl
  | some h =>
    rw [Option.map_some, Option.bind_some, tagOf]
    simp only [bind, Except.bind]
    cases parseNameAddr h.value with
    | error e => rfl
    | ok addr =>
      change _ = addr.tag
      cases htag : addr.tag <;> simp [asParse, htag] <;> rfl

theorem toTag_eq : toTag hs = (valueOf hs "To").bind tagOf := by
  rw [toTag, valueOf]
  cases hs.getFirst "To" <;> rfl

theorem ok_typedCSeq : ok (typedCSeq hs) = (valueOf hs "CSeq").bind cseqOf := by
  simp only [typedCSeq, firstValue, valueOf]
  cases hs.getFirst "CSeq" with
  | none => rfl
  | some h =>
    change ok (asParse (parseCSeq h.value)) = ok (parseCSeq h.value)
    cases parseCSeq h.value <;> rfl

theorem ok_map {α β : Type} (f : α → β) (x : Except SipError α) : ok (x.map f) = (ok x).map f := by
  cases x <;> rfl

end Values

section Messages

variable {data : Bytes} {L : List Header} {line : Text}

def requestAccepts (line : Text) : Prop := ∃ parts, parseRequestLine line = .ok parts

def statusAccepts (line : Text) : Prop := ∃ parts, parseStatusLine line = .ok parts

theorem requestAccepts_len (h : requestAccepts line) : utf8Len line ≤ maxStartLineLen := by
  obtain ⟨⟨method,uri,version⟩,h⟩ := h
  exact (parseRequestLine_words h).1

theorem statusAccepts_len (h : statusAccepts line) : utf8Len line ≤ maxStartLineLen := by
  obtain ⟨⟨version,code,reason⟩,h⟩ := h
  exact (parseStatusLine_parts h).1

theorem parseSipMessage_of_request {r : Request} (h : Message.parse data = .ok (.request r)) :
    parseSipMessage data = .ok (.request ⟨r,parse_request_uri h⟩) := by
  unfold parseSipMessage
  split
  · next hparse => cases h.symm.trans hparse
  · next hparse => cases h.symm.trans hparse; rfl
  · next hparse => cases h.symm.trans hparse

theorem parseSipMessage_of_response {r : Response} (h : Message.parse data = .ok (.response r)) :
    parseSipMessage data = .ok (.response ⟨r⟩) := by
  unfold parseSipMessage
  split
  · next hparse => cases h.symm.trans hparse
  · next hparse => cases h.symm.trans hparse
  · next hparse => cases h.symm.trans hparse; rfl

theorem parseSipMessage_response {r : SipResponse}
    (h : parseSipMessage data = .ok (.response r)) :
    Message.parse data = .ok (.response r.inner) := by
  unfold parseSipMessage at h
  split at h
  · cases h
  · cases h
  · next hparse =>
    cases h
    exact hparse

/-- A message whose first line does not start as a status line is read back
as a request or not at all. -/
theorem request_read_iff (hdispatch : ¬utf8 "SIP/" <+: firstLineBytes data) :
    (∃ r : SipRequest, parseSipMessage data = .ok (.request r) ∧
      r.inner.headers.inner.map pair = L.map pair) ↔ ReadsBack requestAccepts L data := by
  constructor
  · rintro ⟨r,hparse,hpairs⟩
    have hparse := parseSipMessage_request hparse
    rw [Message.parse, if_neg hdispatch] at hparse
    obtain ⟨r',hr,heq⟩ := map_ok hparse
    cases heq
    obtain ⟨⟨line,block,body⟩,hsplit,hr⟩ := bind_ok hr
    obtain ⟨parts,hline,hr⟩ := bind_ok hr
    obtain ⟨headers,hblock,hr⟩ := bind_ok hr
    refine ⟨line,block,headers,by rw [headParts, hsplit]; rfl,⟨parts,hline⟩,hblock,?_⟩
    rw [← hpairs, ← Except.ok.inj hr]
  · rintro ⟨line,block,headers,hparts,⟨parts,hline⟩,hblock,hpairs⟩
    obtain ⟨⟨line',block',body⟩,hsplit,heq⟩ := map_ok hparts
    cases heq
    let r : Request := ⟨parts.1,parts.2.1,parts.2.2,headers,trimBody headers body⟩
    have hr : parseRequest data = .ok r := by
      rw [parseRequest, hsplit]
      simp only [bind, Except.bind, hline, hblock]
      rfl
    have hparse : Message.parse data = .ok (.request r) := by
      rw [Message.parse, if_neg hdispatch, hr]
      rfl
    exact ⟨_,parseSipMessage_of_request hparse,hpairs⟩

theorem response_read_iff (hdispatch : utf8 "SIP/" <+: firstLineBytes data) :
    (∃ r : SipResponse, parseSipMessage data = .ok (.response r) ∧
      r.inner.headers.inner.map pair = L.map pair) ↔ ReadsBack statusAccepts L data := by
  constructor
  · rintro ⟨r,hparse,hpairs⟩
    have hparse := parseSipMessage_response hparse
    rw [Message.parse, if_pos hdispatch] at hparse
    obtain ⟨r',hr,heq⟩ := map_ok hparse
    cases heq
    obtain ⟨⟨line,block,body⟩,hsplit,hr⟩ := bind_ok hr
    obtain ⟨parts,hline,hr⟩ := bind_ok hr
    obtain ⟨headers,hblock,hr⟩ := bind_ok hr
    refine ⟨line,block,headers,by rw [headParts, hsplit]; rfl,⟨parts,hline⟩,hblock,?_⟩
    rw [← hpairs, ← Except.ok.inj hr]
  · rintro ⟨line,block,headers,hparts,⟨parts,hline⟩,hblock,hpairs⟩
    obtain ⟨⟨line',block',body⟩,hsplit,heq⟩ := map_ok hparts
    cases heq
    let r : Response := ⟨parts.1,parts.2.1,parts.2.2,headers,trimBody headers body⟩
    have hr : parseResponse data = .ok r := by
      rw [parseResponse, hsplit]
      simp only [bind, Except.bind, hline, hblock]
      rfl
    have hparse : Message.parse data = .ok (.response r) := by
      rw [Message.parse, if_pos hdispatch, hr]
      rfl
    exact ⟨_,parseSipMessage_of_response hparse,hpairs⟩

end Messages

section Requests

theorem map_toList {α : Type} (f : Header → Header) (g : α → Header) (o : Option α) :
    ((o.map g).toList).map f = (o.map (f ∘ g)).toList := by
  cases o <;> rfl

variable {b : SipRequestBuilder} {n : Needed} {hs : Headers}

theorem optionalHeaders_normal (b : SipRequestBuilder) (k : ℕ) :
    b.optionalHeaders.map (normalize k) = b.optionalHeaders := by
  simp only [SipRequestBuilder.optionalHeaders, List.map_append, List.map_map, map_toList]
  rfl

theorem headerList_normal (b : SipRequestBuilder) (n : Needed) :
    (headerList b n).map (normalize (b.body.getD []).length) = headerList b n := by
  simp only [headerList, List.map_append, optionalHeaders_normal, apply_ite (List.map _),
    map_toList, List.map_nil]
  rfl

theorem request_toBytes (hinner : hs.inner = headerList b n) : (request b n hs).toBytes =
    layout (requestLine n.method (display n.uri) "SIP/2.0") (headerList b n)
      (b.body.getD []) := by
  have hprinted := printed_layout (requestLine n.method (display n.uri) "SIP/2.0")
    (headerList b n) (b.body.getD [])
  rw [headerList_normal] at hprinted
  rw [← hprinted, ← hinner]
  rfl

theorem request_values (hinner : hs.inner = headerList b n) :
    valueOf hs "Via" = some (viaText (b.viaTransport.getD "UDP") n.viaHost
        (b.viaPort.getD 5060) n.viaBranch) ∧
      valueOf hs "From" = some (fromText b n) ∧
      valueOf hs "To" = some (toText b n) ∧
      valueOf hs "Call-ID" = some n.callId ∧
      valueOf hs "CSeq" = some (natText n.cseq++ ' '::n.method.asStr) := by
  simp only [valueOf, Headers.getFirst, hinner]
  exact ⟨rfl,rfl,rfl,rfl,rfl⟩

structure RequestReturned (b : SipRequestBuilder) (r : SipRequest) : Prop where
  fromTag : ok r.fromTag = b.fromTag
  toTag : r.toTag = b.toTag
  callId : ok r.callId = b.callId
  cseq : ok r.cseq = b.cseq
  cseqMethod : ok r.cseqMethod = b.method
  viaBranch : ok r.viaBranch = b.viaBranch

def RequestKept (b : SipRequestBuilder) (built : Request) : Prop :=
  ∃ r, parseSipMessage built.toBytes = .ok (.request r) ∧
    r.inner.headers.inner.map pair = built.headers.inner.map pair ∧ RequestReturned b r

/-- The `Via` value up to its branch. -/
def viaHead (b : SipRequestBuilder) (n : Needed) : Text :=
  "SIP/2.0/"++b.viaTransport.getD "UDP"++ ' '::n.viaHost++
    ':'::natText (b.viaPort.getD 5060)

/-- The `From` value up to its tag. -/
def fromHead (b : SipRequestBuilder) (n : Needed) : Text :=
  match b.fromDisplay with
  | some d => '"'::d++ "\" "++SipRequestBuilder.angle n.fromUri
  | none => SipRequestBuilder.angle n.fromUri

/-- Fields that do not reach beyond their place: every header can be
written, the request line leaves the header list alone, and the branch and
the tags land behind what is written before them. -/
structure RequestFits (b : SipRequestBuilder) (n : Needed) : Prop where
  headers : ∀ h ∈ headerList b n, Writable h
  start : StartKept requestAccepts (requestLine n.method (display n.uri) "SIP/2.0")
    (headerList b n)
  viaBranch : BranchLands (viaHead b n) n.viaBranch
  fromTag : TagLands (fromHead b n) n.fromTag
  toTag : ∀ tag ∈ b.toTag, TagLands (SipRequestBuilder.angle n.toUri) tag
  untagged : b.toTag = none → tagOf (SipRequestBuilder.angle n.toUri) = none

def RequestSafe (b : SipRequestBuilder) : Prop := ∃ n, Complete b n ∧ RequestFits b n

theorem viaText_head : viaText (b.viaTransport.getD "UDP") n.viaHost (b.viaPort.getD 5060)
    n.viaBranch = viaHead b n++paramText "branch" n.viaBranch :=
  List.append_assoc (viaHead b n) ";branch=" n.viaBranch

theorem tagged_eq (addr tag : Text) : tagged addr tag = addr++paramText "tag" tag :=
  List.append_assoc addr ";tag=" tag

theorem fromText_head : fromText b n = fromHead b n++paramText "tag" n.fromTag := by
  rw [fromText, fromHead]
  cases b.fromDisplay <;> exact tagged_eq _ _

theorem fromHead_bracketed : Bracketed (fromHead b n) := by
  rw [fromHead]
  cases b.fromDisplay with
  | none => exact .inl rfl
  | some d => exact .inr rfl

theorem tagOf_eq_some {value tag : Text} :
    tagOf value = some tag ↔ ∃ a, parseNameAddr value = .ok a ∧ a.tag = some tag := by
  rw [tagOf]
  cases parseNameAddr value <;> simp [ok, Except.toOption]

theorem branchOf_eq_some {value branch : Text} :
    branchOf value = some branch ↔ ∃ v, parseTypedVia value = .ok v ∧ v.branch = some branch := by
  rw [branchOf]
  cases parseTypedVia value <;> simp [ok, Except.toOption]

theorem tagOf_tagged_iff {addr tag : Text} (haddr : Bracketed addr)
    (htrim : trim (addr++paramText "tag" tag) = addr++paramText "tag" tag) :
    tagOf (addr++paramText "tag" tag) = some tag ↔ TagLands addr tag :=
  (tagOf_eq_some.trans (tag_lands_iff htrim)).trans (and_iff_left (haddr.anchored _))

theorem toText_tag_iff (htrim : trim (toText b n) = toText b n) :
    tagOf (toText b n) = b.toTag ↔
      (∀ tag ∈ b.toTag, TagLands (SipRequestBuilder.angle n.toUri) tag) ∧
      (b.toTag = none → tagOf (SipRequestBuilder.angle n.toUri) = none) := by
  rw [toText] at htrim ⊢
  cases htag : b.toTag with
  | none => simp
  | some tag =>
    simp only [htag, tagged_eq] at htrim ⊢
    rw [tagOf_tagged_iff (.inl rfl) htrim]
    simp

theorem complete_unique {n' : Needed} (h : Complete b n) (h' : Complete b n') : n = n' := by
  cases n
  cases n'
  have := Option.some.inj (h.method.symm.trans h'.method)
  have := Option.some.inj (h.uri.symm.trans h'.uri)
  have := Option.some.inj (h.fromUri.symm.trans h'.fromUri)
  have := Option.some.inj (h.fromTag.symm.trans h'.fromTag)
  have := Option.some.inj (h.toUri.symm.trans h'.toUri)
  have := Option.some.inj (h.callId.symm.trans h'.callId)
  have := Option.some.inj (h.cseq.symm.trans h'.cseq)
  have := Option.some.inj (h.viaHost.symm.trans h'.viaHost)
  have := Option.some.inj (h.viaBranch.symm.trans h'.viaBranch)
  simp_all

/-- With the header list in place, what is returned is up to the typed
parsers of three values. -/
theorem requestReturned_iff {r : SipRequest} (hc : Complete b n) (hseq : n.cseq < 2^32)
    (hinner : hs.inner = headerList b n)
    (hpairs : r.inner.headers.inner.map pair = hs.inner.map pair) :
    RequestReturned b r ↔ branchOf (viaText (b.viaTransport.getD "UDP") n.viaHost
        (b.viaPort.getD 5060) n.viaBranch) = some n.viaBranch ∧
      tagOf (fromText b n) = some n.fromTag ∧ tagOf (toText b n) = b.toTag := by
  obtain ⟨hvia,hfrom,hto,hcall,hcseq⟩ := request_values hinner
  have hcseqOf : cseqOf (natText n.cseq++ ' '::n.method.asStr) = some ⟨n.cseq,n.method⟩ := by
    rw [cseqOf, SipReply.parseCSeq_text hseq]
    rfl
  have hfromTag : ok r.fromTag = tagOf (fromText b n) := by
    rw [SipRequest.fromTag, SipRequest.fromTagAndUri, ok_fromTag, valueOf_congr hpairs, hfrom]
    rfl
  have htoTag : r.toTag = tagOf (toText b n) := by
    rw [SipRequest.toTag, toTag_eq, valueOf_congr hpairs, hto]
    rfl
  have hbranch : ok r.viaBranch = branchOf (viaText (b.viaTransport.getD "UDP") n.viaHost
      (b.viaPort.getD 5060) n.viaBranch) := by
    rw [SipRequest.viaBranch, ok_viaBranch, valueOf_congr hpairs, hvia]
    rfl
  have hcallId : ok r.callId = b.callId := by
    rw [SipRequest.callId, ok_firstValue, valueOf_congr hpairs, hcall, hc.callId]
  have htyped : ok (typedCSeq r.inner.headers) = some ⟨n.cseq,n.method⟩ := by
    rw [ok_typedCSeq, valueOf_congr hpairs, hcseq]
    exact hcseqOf
  constructor
  · intro h
    exact ⟨hbranch.symm.trans (h.viaBranch.trans hc.viaBranch),
      hfromTag.symm.trans (h.fromTag.trans hc.fromTag),htoTag.symm.trans h.toTag⟩
  · rintro ⟨hb,hf,ht⟩
    refine ⟨?_,htoTag.trans ht,hcallId,?_,?_,?_⟩
    · rw [hfromTag, hf, hc.fromTag]
    · rw [SipRequest.cseq, ok_map, htyped, hc.cseq]
      rfl
    · rw [SipRequest.cseqMethod, ok_map, htyped, hc.method]
      rfl
    · rw [hbranch, hb, hc.viaBranch]

/-- The three values, read by their parsers and by where they land. -/
theorem values_land_iff (hwritable : ∀ h ∈ headerList b n, Writable h) :
    (branchOf (viaText (b.viaTransport.getD "UDP") n.viaHost (b.viaPort.getD 5060)
        n.viaBranch) = some n.viaBranch ∧
      tagOf (fromText b n) = some n.fromTag ∧ tagOf (toText b n) = b.toTag) ↔
    BranchLands (viaHead b n) n.viaBranch ∧ TagLands (fromHead b n) n.fromTag ∧
      (∀ tag ∈ b.toTag, TagLands (SipRequestBuilder.angle n.toUri) tag) ∧
      (b.toTag = none → tagOf (SipRequestBuilder.angle n.toUri) = none) := by
  have hmem : ∀ h, h ∈ [Header.via (viaText (b.viaTransport.getD "UDP") n.viaHost
      (b.viaPort.getD 5060) n.viaBranch),.from (fromText b n),.to (toText b n)] →
      trim h.value = h.value := by
    intro h hh
    refine (hwritable h ?_).value_trim
    simp only [headerList, List.append_assoc]
    exact List.mem_append_left _ (by
      simp only [List.mem_cons, List.not_mem_nil, or_false] at hh ⊢
      tauto)
  have hvia : trim (viaHead b n++paramText "branch" n.viaBranch) =
      viaHead b n++paramText "branch" n.viaBranch := by
    rw [← viaText_head]
    exact hmem _ List.mem_cons_self
  have hfrom : trim (fromHead b n++paramText "tag" n.fromTag) =
      fromHead b n++paramText "tag" n.fromTag := by
    rw [← fromText_head]
    exact hmem (.from (fromText b n)) (by simp)
  have hto : trim (toText b n) = toText b n := hmem (.to (toText b n)) (by simp)
  rw [viaText_head, fromText_head, branchOf_eq_some, branch_lands_iff hvia,
    tagOf_tagged_iff fromHead_bracketed hfrom, toText_tag_iff hto]

theorem request_kept_iff {built : Request} (hseq : ∀ s ∈ b.cseq, s < 2^32)
    (hbuild : b.build = .ok built) : RequestKept b built ↔ RequestSafe b := by
  obtain ⟨n,headers,hc,hinner,rfl⟩ := build_ok.mp hbuild
  have hseq : n.cseq < 2^32 := hseq n.cseq hc.cseq
  have hlen : (headerList b n).length ≤ maxHeaders := by
    rw [← hinner]
    exact headers.bound
  have hdispatch : ¬utf8 "SIP/" <+: firstLineBytes (request b n headers).toBytes := by
    simp only [Request.toBytes, utf8_append, List.append_assoc]
    exact request_dispatch n.method _
  have hread : ReadsBack requestAccepts (headerList b n) (request b n headers).toBytes ↔
      (∀ h ∈ headerList b n, Writable h) ∧ StartKept requestAccepts
        (requestLine n.method (display n.uri) "SIP/2.0") (headerList b n) := by
    rw [request_toBytes hinner]
    exact readsBack_layout_iff (fun _ => requestAccepts_len) (by simp [headerList]) hlen
  constructor
  · rintro ⟨r,hparse,hpairs,hreturned⟩
    have hlist : r.inner.headers.inner.map pair = (headerList b n).map pair := by
      rw [hpairs, ← hinner]
      rfl
    obtain ⟨hwritable,hstart⟩ := hread.mp ((request_read_iff hdispatch).mp ⟨r,hparse,hlist⟩)
    obtain ⟨hvia,hfrom,hto⟩ := (values_land_iff hwritable).mp
      ((requestReturned_iff hc hseq hinner hpairs).mp hreturned)
    exact ⟨n,hc,hwritable,hstart,hvia,hfrom,hto.1,hto.2⟩
  · rintro ⟨n',hc',hfits⟩
    obtain rfl := complete_unique hc hc'
    obtain ⟨r,hparse,hpairs⟩ := (request_read_iff hdispatch).mpr
      (hread.mpr ⟨hfits.headers,hfits.start⟩)
    have hpairs : r.inner.headers.inner.map pair = headers.inner.map pair := by
      rw [hpairs, hinner]
    exact ⟨r,hparse,hpairs,(requestReturned_iff hc hseq hinner hpairs).mpr
      ((values_land_iff hfits.headers).mpr
        ⟨hfits.viaBranch,hfits.fromTag,hfits.toTag,hfits.untagged⟩)⟩

end Requests

section Responses

variable {b : SipResponseBuilder} {tag : Option Text} {hs : Headers}

/-- The builder after an optional last call of `to_tag`. -/
def withTag (b : SipResponseBuilder) (tag : Option Text) : SipResponseBuilder :=
  tag.elim b b.setToTag

theorem withTag_eq (b : SipResponseBuilder) (tag : Option Text) :
    withTag b tag = { b with toValue := (withTag b tag).toValue } := by
  cases tag with
  | none => rfl
  | some t =>
    simp only [withTag, Option.elim_some, SipResponseBuilder.setToTag]
    cases hto : b.toValue with
    | none => cases b; cases hto; rfl
    | some value =>
      dsimp only
      split_ifs
      · cases b; cases hto; rfl
      · rfl

theorem responseHeaders_normal (b : SipResponseBuilder) :
    b.headerList.map (normalize (b.body.getD []).length) = b.headerList := by
  simp only [SipResponseBuilder.headerList, SipResponseBuilder.otherHeaders, List.map_append,
    List.map_map, apply_ite (List.map _), map_toList, List.map_nil]
  rfl

section Find
variable {α : Type} {p : Header → Bool} {g : α → Header}

theorem find?_toList_pos (h : ∀ a, p (g a) = true) (o : Option α) :
    ((o.map g).toList).find? p = o.map g := by
  cases o with
  | none => rfl
  | some a => simp [h a]

theorem find?_toList_neg (h : ∀ a, p (g a) = false) (o : Option α) :
    ((o.map g).toList).find? p = none := by
  cases o with
  | none => rfl
  | some a => simp [h a]

theorem find?_map_pos (h : ∀ a, p (g a) = true) (l : List α) :
    (l.map g).find? p = l.head?.map g := by
  cases l with
  | nil => rfl
  | cons a l => simp [h a]

theorem find?_map_neg (h : ∀ a, p (g a) = false) (l : List α) : (l.map g).find? p = none := by
  rw [List.find?_eq_none]
  intro x hx
  obtain ⟨a,-,rfl⟩ := List.mem_map.mp hx
  simp [h a]

end Find

theorem responseHeaders_eq (b : SipResponseBuilder) : b.headerList = b.via.map Header.via++
    ((b.fromValue.map Header.from).toList++((b.toValue.map Header.to).toList++
    ((b.callId.map Header.callId).toList++((b.cseq.map Header.cseq).toList++b.otherHeaders)))) := by
  simp only [SipResponseBuilder.headerList, List.append_assoc]

theorem find?_others (b : SipResponseBuilder) {query : Text}
    (hquery : query ∈ (["Via","From","To","Call-ID","CSeq"] : List Text)) :
    b.otherHeaders.find? (·.nameMatches query) = none := by
  simp only [List.mem_cons, List.not_mem_nil, or_false] at hquery
  rw [List.find?_eq_none]
  intro h hmem
  simp only [SipResponseBuilder.otherHeaders, List.mem_append, Option.mem_toList,
    Option.map_eq_some_iff, List.mem_singleton, or_assoc] at hmem
  rcases hmem with ⟨_,_,rfl⟩ | ⟨_,_,rfl⟩ | ⟨_,_,rfl⟩ | ⟨_,_,rfl⟩ | ⟨_,_,rfl⟩ | ⟨_,_,rfl⟩ |
    ⟨_,_,rfl⟩ | hmem | rfl
  case inr.inr.inr.inr.inr.inr.inr.inl =>
    split_ifs at hmem
    · cases hmem
    · obtain ⟨_,_,rfl⟩ := Option.map_eq_some_iff.mp (Option.mem_toList.mp hmem)
      rcases hquery with rfl | rfl | rfl | rfl | rfl <;> exact Bool.false_ne_true
  all_goals rcases hquery with rfl | rfl | rfl | rfl | rfl <;> exact Bool.false_ne_true

theorem response_values (hinner : hs.inner = b.headerList) :
    valueOf hs "Via" = b.via.head? ∧ valueOf hs "From" = b.fromValue ∧
      valueOf hs "To" = b.toValue ∧ valueOf hs "Call-ID" = b.callId ∧
      valueOf hs "CSeq" = b.cseq := by
  simp only [valueOf, Headers.getFirst, hinner, responseHeaders_eq, List.find?_append]
  refine ⟨?_,?_,?_,?_,?_⟩
  · rw [find?_others b (by simp), find?_map_pos (g := Header.via)]
    repeat rw [find?_toList_neg]
    · rw [Option.or_none]
      cases b.via <;> rfl
    all_goals exact fun _ => rfl
  · rw [find?_others b (by simp), find?_map_neg, find?_toList_pos (g := Header.from)]
    repeat rw [find?_toList_neg]
    · cases b.fromValue <;> rfl
    all_goals exact fun _ => rfl
  · rw [find?_others b (by simp), find?_map_neg, find?_toList_pos (g := Header.to)]
    repeat rw [find?_toList_neg]
    · cases b.toValue <;> rfl
    all_goals exact fun _ => rfl
  · rw [find?_others b (by simp), find?_map_neg, find?_toList_pos (g := Header.callId)]
    repeat rw [find?_toList_neg]
    · cases b.callId <;> rfl
    all_goals exact fun _ => rfl
  · rw [find?_others b (by simp), find?_map_neg, find?_toList_pos (g := Header.cseq)]
    repeat rw [find?_toList_neg]
    · cases b.cseq <;> rfl
    all_goals exact fun _ => rfl

def response (b : SipResponseBuilder) (code : ℕ) (hs : Headers) : SipResponse :=
  ⟨{ version := "SIP/2.0", statusCode := code, reason := b.reason.getD (reasonPhrase code),
     headers := hs, body := b.body.getD [] }⟩

theorem response_of_build {built : SipResponse} (h : b.build = .ok built) :
    ∃ code hs, b.statusCode = some code ∧ hs.inner = b.headerList ∧ built = response b code hs := by
  obtain ⟨code,hcode,h⟩ := bind_ok h
  obtain ⟨hs,hheaders,h⟩ := bind_ok h
  exact ⟨code,hs,required_ok.mp hcode,pushAll_ok.mp hheaders,(Except.ok.inj h).symm⟩

theorem response_build_exists {code : ℕ} (hcode : b.statusCode = some code)
    (hlen : b.headerList.length ≤ maxHeaders) : ∃ built, b.build = .ok built := by
  obtain ⟨hs,hheaders⟩ := pushAll_exists.mpr hlen
  refine ⟨response b code hs,?_⟩
  rw [SipResponseBuilder.build, required_ok.mpr hcode, ok_bind, hheaders, ok_bind]
  rfl

def startLine (b : SipResponseBuilder) (code : ℕ) : Text :=
  statusLine "SIP/2.0" code (b.reason.getD (reasonPhrase code))

theorem response_toBytes {code : ℕ} (hinner : hs.inner = b.headerList) :
    (response b code hs).toBytes = layout (startLine b code) b.headerList (b.body.getD []) := by
  have hprinted := printed_layout (startLine b code) b.headerList (b.body.getD [])
  rw [responseHeaders_normal] at hprinted
  rw [← hprinted, ← hinner]
  rfl

/-- The tag that a call of `to_tag` leaves set: a tag already there stays,
and without a To header there is none. -/
def tagSet (b : SipResponseBuilder) (tag : Option Text) : Option Text :=
  b.toValue.bind (fun value => (tagOf value).or tag)

structure ResponseReturned (b : SipResponseBuilder) (tag : Option Text) (r : SipResponse) :
    Prop where
  fromTag : ok r.fromTag = b.fromValue.bind tagOf
  toTag : r.toTag = tagSet b tag
  callId : ok r.callId = b.callId
  cseq : ok r.cseq = (b.cseq.bind cseqOf).map CSeq.seq
  cseqMethod : ok r.cseqMethod = (b.cseq.bind cseqOf).map CSeq.method
  viaBranch : ok r.viaBranch = b.via.head?.bind branchOf

def ResponseKept (b : SipResponseBuilder) (tag : Option Text) (built : SipResponse) : Prop :=
  ∃ r, parseSipMessage built.toBytes = .ok (.response r) ∧
    r.inner.headers.inner.map pair = built.inner.headers.inner.map pair ∧ ResponseReturned b tag r

/-- When the tag given for the To value `w` counts as it should. Where `tag=`
occurs in the value nothing is written. Otherwise the tag lands behind the
address, or the value has a tag that is spelled in another way (`Tag=`), which
is read before the new one. -/
def TagCounts (w t : Text) : Prop :=
  if "tag=" <:+: w then (tagOf w).isSome = true
  else match tagOf w with
    | none => TagLands w t ∧ Anchored w (paramText "tag" t)
    | some old => tagOf (w++paramText "tag" t) = some old

structure ResponseFits (b : SipResponseBuilder) (tag : Option Text) (code : ℕ) : Prop where
  headers : ∀ h ∈ (withTag b tag).headerList, Writable h
  start : StartKept statusAccepts (startLine b code) (withTag b tag).headerList
  toTag : ∀ w ∈ b.toValue, ∀ t ∈ tag, TagCounts w t

def ResponseSafe (b : SipResponseBuilder) (tag : Option Text) : Prop :=
  ∃ code, b.statusCode = some code ∧ ResponseFits b tag code

theorem withTag_tag_iff (hwritable : ∀ h ∈ (withTag b tag).headerList, Writable h) :
    (withTag b tag).toValue.bind tagOf = tagSet b tag ↔
      ∀ w ∈ b.toValue, ∀ t ∈ tag, TagCounts w t := by
  have htrim : ∀ w ∈ (withTag b tag).toValue, trim w = w := by
    intro w hw
    refine (hwritable (.to w) ?_).value_trim
    simp [SipResponseBuilder.headerList, Option.mem_def.mp hw]
  rw [tagSet]
  cases tag with
  | none => simp [withTag]
  | some t =>
    rw [withTag, Option.elim_some, SipResponseBuilder.setToTag] at htrim ⊢
    cases hto : b.toValue with
    | none => simp [hto]
    | some w =>
      rw [hto] at htrim
      simp only [Option.mem_def, Option.some.injEq, forall_eq', Option.bind_some]
      rw [TagCounts]
      split_ifs with htext
      · rw [hto, Option.bind_some]
        cases tagOf w <;> simp
      · dsimp only at htrim
        rw [if_neg htext] at htrim
        have hvalue : w++ ";tag="++t = w++paramText "tag" t := tagged_eq w t
        rw [Option.bind_some, hvalue]
        cases tagOf w with
        | none =>
          have hwhole := htrim (w++ ";tag="++t) rfl
          rw [hvalue] at hwhole
          exact tagOf_eq_some.trans (tag_lands_iff hwhole)
        | some old => exact Iff.rfl

theorem responseReturned_iff {r : SipResponse} (hinner : hs.inner = (withTag b tag).headerList)
    (hwritable : ∀ h ∈ (withTag b tag).headerList, Writable h)
    (hpairs : r.inner.headers.inner.map pair = hs.inner.map pair) :
    ResponseReturned b tag r ↔ ∀ w ∈ b.toValue, ∀ t ∈ tag, TagCounts w t := by
  rw [← withTag_tag_iff hwritable]
  obtain ⟨hvia,hfrom,hto,hcall,hcseq⟩ := response_values hinner
  have htoTag : r.toTag = (withTag b tag).toValue.bind tagOf := by
    rw [SipResponse.toTag, toTag_eq, valueOf_congr hpairs, hto]
  -- a call of `to_tag` changes nothing but the To value
  rw [withTag_eq] at hvia hfrom hcall hcseq
  constructor
  · intro h
    exact htoTag.symm.trans h.toTag
  · intro htag
    have htyped : ok (typedCSeq r.inner.headers) = b.cseq.bind cseqOf := by
      rw [ok_typedCSeq, valueOf_congr hpairs, hcseq]
    refine ⟨?_,htoTag.trans htag,?_,?_,?_,?_⟩
    · rw [SipResponse.fromTag, ok_fromTag, valueOf_congr hpairs, hfrom]
    · rw [SipResponse.callId, ok_firstValue, valueOf_congr hpairs, hcall]
    · rw [SipResponse.cseq, ok_map, htyped]
    · rw [SipResponse.cseqMethod, ok_map, htyped]
    · rw [SipResponse.viaBranch, ok_viaBranch, valueOf_congr hpairs, hvia]

theorem response_kept_iff {built : SipResponse} (hbuild : (withTag b tag).build = .ok built) :
    ResponseKept b tag built ↔ ResponseSafe b tag := by
  obtain ⟨code,headers,hcode,hinner,rfl⟩ := response_of_build hbuild
  have hcode : b.statusCode = some code := by
    rw [withTag_eq] at hcode
    exact hcode
  have hstart : startLine (withTag b tag) code = startLine b code := by
    rw [withTag_eq]
    rfl
  have hlen : (withTag b tag).headerList.length ≤ maxHeaders := by
    rw [← hinner]
    exact headers.bound
  have hne : (withTag b tag).headerList ≠ [] := by
    simp [SipResponseBuilder.headerList, SipResponseBuilder.otherHeaders]
  have hdispatch : utf8 "SIP/" <+:
      firstLineBytes (response (withTag b tag) code headers).toBytes := by
    simp only [SipResponse.toBytes, Response.toBytes, utf8_append, List.append_assoc]
    exact response_dispatch _
  have hread : ReadsBack statusAccepts (withTag b tag).headerList
      (response (withTag b tag) code headers).toBytes ↔
      (∀ h ∈ (withTag b tag).headerList, Writable h) ∧
        StartKept statusAccepts (startLine b code) (withTag b tag).headerList := by
    rw [response_toBytes hinner, hstart]
    exact readsBack_layout_iff (fun _ => statusAccepts_len) hne hlen
  constructor
  · rintro ⟨r,hparse,hpairs,hreturned⟩
    have hlist : r.inner.headers.inner.map pair = (withTag b tag).headerList.map pair := by
      rw [hpairs, ← hinner]
      rfl
    obtain ⟨hwritable,hkept⟩ := hread.mp ((response_read_iff hdispatch).mp ⟨r,hparse,hlist⟩)
    exact ⟨code,hcode,hwritable,hkept,(responseReturned_iff hinner hwritable hpairs).mp hreturned⟩
  · rintro ⟨code',hcode',hfits⟩
    obtain rfl := Option.some.inj (hcode.symm.trans hcode')
    obtain ⟨r,hparse,hpairs⟩ := (response_read_iff hdispatch).mpr
      (hread.mpr ⟨hfits.headers,hfits.start⟩)
    have hpairs : r.inner.headers.inner.map pair = headers.inner.map pair := by
      rw [hpairs, hinner]
    exact ⟨r,hparse,hpairs,(responseReturned_iff hinner hfits.headers hpairs).mpr hfits.toTag⟩

end Responses

inductive Draft where
  | request (b : SipRequestBuilder)
  | response (b : SipResponseBuilder) (tag : Option Text)

def Draft.build : Draft → Except SipError Message
  | .request b => b.build.map .request
  | .response b tag => (withTag b tag).build.map (fun r => .response r.inner)

theorem Draft.build_request {b : SipRequestBuilder} {built : Request} (h : b.build = .ok built) :
    (Draft.request b).build = .ok (.request built) := by
  rw [Draft.build, h]
  rfl

theorem Draft.build_response {b : SipResponseBuilder} {tag : Option Text} {built : SipResponse}
    (h : (withTag b tag).build = .ok built) :
    (Draft.response b tag).build = .ok (.response built.inner) := by
  rw [Draft.build, h]
  rfl

/-- The sequence number of a request is a `u32`. -/
def Draft.Typed : Draft → Prop
  | .request b => ∀ s ∈ b.cseq, s < 2^32
  | .response _ _ => True

def Draft.Kept : Draft → Message → Prop
  | .request b, .request built => RequestKept b built
  | .response b tag, .response built => ResponseKept b tag ⟨built⟩
  | _, _ => False

def Draft.Safe : Draft → Prop
  | .request b => RequestSafe b
  | .response b tag => ResponseSafe b tag

theorem builders_read_back_iff {d : Draft} {m : Message} (hseq : d.Typed)
    (hbuild : d.build = .ok m) : d.Kept m ↔ d.Safe := by
  cases d with
  | request b =>
    obtain ⟨built,hbuilt,rfl⟩ := map_ok hbuild
    exact request_kept_iff hseq hbuilt
  | response b tag =>
    obtain ⟨built,hbuilt,rfl⟩ := map_ok hbuild
    exact response_kept_iff hbuilt

def bobUri : SipUri where
  scheme := .sip
  user := some "bob"
  host := "example.com"
  port := none
  params := []
  headers := []

def aliceUri : SipUri := { bobUri with user := some "alice" }

def calling (callId : Text) : SipRequestBuilder where
  method := some .invite
  uri := some bobUri
  viaHost := some "alice.example.com"
  viaPort := some 5060
  viaTransport := some "UDP"
  viaBranch := some "z9hG4bKnashds7"
  fromUri := some aliceUri
  fromTag := some "1928301774"
  toUri := some bobUri
  callId := some callId
  cseq := some 314159

def callingNeeded (callId : Text) : Needed where
  method := .invite
  uri := bobUri
  fromUri := aliceUri
  fromTag := "1928301774"
  toUri := bobUri
  callId := callId
  cseq := 314159
  viaHost := "alice.example.com"
  viaBranch := "z9hG4bKnashds7"

def answering : SipResponseBuilder where
  statusCode := some 200
  reason := some "OK"
  via := ["SIP/2.0/UDP alice.example.com:5060;branch=z9hG4bKnashds7"]
  fromValue := some "<sip:alice@example.com>;tag=1928301774"
  toValue := some "<sip:bob@example.com>"
  callId := some "a84b4c76e66710@pc33.example.com"
  cseq := some "314159 INVITE"

theorem calling_complete (callId : Text) : Complete (calling callId) (callingNeeded callId) := by
  constructor <;> rfl

theorem calling_built (callId : Text) : ∃ hlen, (calling callId).build =
    .ok (request (calling callId) (callingNeeded callId)
      ⟨headerList (calling callId) (callingNeeded callId),hlen⟩) :=
  ⟨by simp [headerList, SipRequestBuilder.optionalHeaders, calling, maxHeaders],
    build_exists (calling_complete callId) _⟩

theorem calling_fits : RequestFits (calling "a84b4c76e66710@pc33.example.com")
    (callingNeeded "a84b4c76e66710@pc33.example.com") where
  headers := by decide +kernel
  start := (startKept_line (by decide +kernel)).mpr
    ⟨(.invite,"sip:bob@example.com","SIP/2.0"),by decide +kernel⟩
  viaBranch := ⟨("SIP/2.0","UDP"),"alice.example.com:5060",[],
    ⟨"SIP/2.0/UDP","alice.example.com:5060","alice.example.com:5060",
      by decide +kernel,by decide +kernel,by decide +kernel,by decide +kernel,by decide,
      by decide +kernel⟩,lands_first_iff.mpr (by decide +kernel)⟩
  fromTag := ⟨none,"sip:alice@example.com",[],by decide +kernel,⟨aliceUri,by decide +kernel⟩,
    lands_first_iff.mpr (by decide +kernel)⟩
  toTag := fun tag htag => by cases htag
  untagged := fun _ => by decide +kernel

theorem answering_fits : ResponseFits answering (some "a6c85cf") 200 where
  headers := by decide +kernel
  start := (startKept_line (by decide +kernel)).mpr
    ⟨("SIP/2.0",200,"OK"),by decide +kernel⟩
  toTag := by
    rintro _ ⟨⟩ _ ⟨⟩
    have htext : ¬"tag=".toList <:+: "<sip:bob@example.com>" := by decide +kernel
    have hnone : tagOf "<sip:bob@example.com>" = none := by decide +kernel
    rw [TagCounts, if_neg htext, hnone]
    exact ⟨⟨none,"sip:bob@example.com",[],by decide +kernel,⟨bobUri,by decide +kernel⟩,
      lands_first_iff.mpr (by decide +kernel)⟩,Bracketed.anchored (.inl rfl) _⟩

/-- Fields as the source's own tests have them come back. -/
theorem plain_fields_read_back :
    (∃ m, (Draft.request (calling "a84b4c76e66710@pc33.example.com")).build = .ok m ∧
      (Draft.request (calling "a84b4c76e66710@pc33.example.com")).Kept m) ∧
    ∃ m, (Draft.response answering (some "a6c85cf")).build = .ok m ∧
      (Draft.response answering (some "a6c85cf")).Kept m := by
  obtain ⟨_,hbuild⟩ := calling_built "a84b4c76e66710@pc33.example.com"
  have hcode : (withTag answering (some "a6c85cf")).statusCode = some 200 := by
    rw [withTag_eq]
    rfl
  obtain ⟨built,hbuild'⟩ := response_build_exists hcode (by decide +kernel)
  have hask := Draft.build_request hbuild
  have hanswer := Draft.build_response hbuild'
  exact ⟨⟨_,hask,(builders_read_back_iff (by simp [Draft.Typed, calling]) hask).mpr
      ⟨_,calling_complete _,calling_fits⟩⟩,
    ⟨_,hanswer,(builders_read_back_iff (by trivial) hanswer).mpr ⟨200,rfl,answering_fits⟩⟩⟩

/-- What becomes of the request with a Call-ID: whether it is read with the
header that the Call-ID holds, and what its Call-ID is. -/
def injected (data : Bytes) : Option (Bool × Option Text) :=
  match parseSipMessage data with
  | .ok (.request r) =>
    some (decide (Header.other "X-Injected" "yes" ∈ r.inner.headers.inner),ok r.callId)
  | _ => none

def injectingId : Text := "a\r\nX-Injected: yes"

/-- A Call-ID with a line break: the request has a header that nobody added,
and the Call-ID is cut short. -/
theorem callId_injects_header :
    ∃ built, (Draft.request (calling injectingId)).build = .ok (.request built) ∧
      Header.other "X-Injected" "yes" ∉ built.headers.inner ∧
      injected built.toBytes = some (true,some "a".toList) ∧
      ¬(Draft.request (calling injectingId)).Kept (.request built) := by
  obtain ⟨hlen,hbuild⟩ := calling_built injectingId
  have hother : Header.other "X-Injected" "yes" ∉
      headerList (calling injectingId)
        (callingNeeded injectingId) := by decide +kernel
  refine ⟨_,Draft.build_request hbuild,hother,?_,fun hkept => ?_⟩
  · rw [request_toBytes rfl]
    decide +kernel
  · obtain ⟨n,hc,hfits⟩ := (request_kept_iff (by simp [calling]) hbuild).mp hkept
    rw [complete_unique hc (calling_complete _)] at hfits
    have hcall := hfits.headers (.callId injectingId) (by decide +kernel)
    exact hcall.value_line (by decide +kernel)

end RsipRtp.SipBuilderRead
